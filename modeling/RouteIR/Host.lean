import RouteIR.FileSystem

namespace RouteIR

/-!
# What the program asks of its surroundings

All that the commands need from outside is named here, one operation each, so that
the same commands run against an operating system and against a `World`, where their
effects are values.
-/

/-- The two streams for text. -/
inductive Stream where
  | output
  | diagnostics
deriving DecidableEq, Repr

/-- An answer from the network. -/
structure Response where
  status : Nat
  /-- Names and values of the fields in front of the body. -/
  headers : List (String × String)
  body : List UInt8
deriving DecidableEq, Repr

/-- The value of a field, whose name can be in either case; a field that is given several times
has all values in a row.  It is empty where the field is missing. -/
def Response.header (response : Response) (name : String) : String :=
  let lower (text : String) : String := String.ofList (text.toList.map Char.toLower)
  let fields := response.headers.filter fun field => lower field.1 = lower name
  ", ".intercalate (fields.map (·.2))

/-- What a path leads to. -/
inductive EntryKind where
  | file
  | directory
deriving DecidableEq, Repr

class Host (m : Type → Type) where
  /-- The value of an environment variable. -/
  environment : String → m (Option String)
  /-- The name of the operating system. -/
  system : m String
  currentDirectory : m Path
  homeDirectory : m Path
  /-- Whether the stream for output is a terminal. -/
  isTerminal : m Bool
  /-- What a path leads to, nothing where it leads nowhere.  A path that cannot be followed
  at all is a fault. -/
  kindAt : Path → m (Except OsError (Option EntryKind))
  readFile : Path → m (Except OsError (List UInt8))
  makeDirectory : Path → m (Except OsError Unit)
  /-- Opens a new file in a directory, under a name that starts with the given text. -/
  openTemporary : Path → String → m (Except OsError Path)
  write : Path → String → m (Except OsError Unit)
  flush : Path → m (Except OsError Unit)
  sync : Path → m (Except OsError Unit)
  close : Path → m (Except OsError Unit)
  /-- Moves a file over another in one step. -/
  replace : Path → Path → m (Except OsError Unit)
  remove : Path → m Unit
  /-- Writes a whole file in place. -/
  save : Path → String → m (Except OsError Unit)
  /-- All text of the input stream. -/
  readInput : m String
  /-- The answer to a request for an address, or why there is none. -/
  fetch : String → m (Except String Response)
  print : Stream → String → m Unit
  /-- What a console shows for a text with marks for colours, absent where it cannot read the
  marks. -/
  readMarkup : String → m (Option String)
  /-- Notes something for those who look after the program. -/
  log : String → m Unit
  startTimer : m Unit
  /-- The milliseconds since the timer was started, with one decimal place. -/
  elapsed : m String
  /-- The present time, as part of a file name. -/
  timestamp : m String

end RouteIR
