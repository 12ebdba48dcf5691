import RouteIR.Command
import RouteIR.Output.Markup

/-!
# The program

The host that is an operating system, and the entry point.  Requests to the network
are not supported here and fail like an address that cannot be reached.
-/

namespace RouteIR
namespace Machine

/-- What the host remembers: the temporary files that are open, and when the timer was
started. -/
structure Memory where
  handles : List (Path × IO.FS.Handle)
  startedAt : Nat

abbrev Run := StateT Memory IO

def codeOf : IO.Error → Nat
  | .noFileOrDirectory _ code _ | .alreadyExists _ code _ | .permissionDenied _ code _
  | .inappropriateType _ code _ | .invalidArgument _ code _ | .resourceExhausted _ code _ =>
      code.toNat
  | .resourceBusy code _ => code.toNat
  | _ => 5

def osError (error : IO.Error) (paths : List Path) : OsError :=
  let code := codeOf error
  let known := OsFault.all.find? (·.code = code)
  ⟨code, (known.map OsFault.text).getD (toString error), paths.map Path.text⟩

def attempt {α : Type} (paths : List Path) (action : IO α) : Run (Except OsError α) := do
  match ← action.toBaseIO with
  | .ok value => return .ok value
  | .error error => return .error (osError error paths)

def succeeds {α : Type} (action : IO α) : IO Bool := do
  match ← action.toBaseIO with
  | .ok _ => return true
  | .error _ => return false

def isDirectory (path : Path) : IO Bool :=
  succeeds (IO.FS.Handle.mk (path.text ++ "/.") .read)

/-- What a path leads to.  Only a path that is too long cannot be followed. -/
def kindAt (path : Path) : Run (Except OsError (Option EntryKind)) := do
  if ← isDirectory path then return .ok (some .directory)
  match ← attempt [path] (IO.FS.Handle.mk path.text .read) with
  | .ok _ => return .ok (some .file)
  | .error error => return if error.code = OsFault.nameTooLong.code then .error error else .ok none

/-- Something to be done with an open temporary file. -/
def withHandle (path : Path) (action : IO.FS.Handle → IO Unit) : Run (Except OsError Unit) := do
  match (← get).handles.lookup path with
  | none => return .ok ()
  | some handle => attempt [path] (action handle)

partial def readAll (stream : IO.FS.Stream) (read : ByteArray) : IO ByteArray := do
  let chunk ← stream.read 65536
  if chunk.isEmpty then return read else readAll stream (read ++ chunk)

/-- Tenths of a millisecond with one decimal place. -/
def tenths (count : Nat) : String := toString (count / 10) ++ "." ++ toString (count % 10)

instance : Host Run where
  environment name := IO.getEnv name
  system := do
    match ← (IO.FS.readFile "/proc/sys/kernel/ostype").toBaseIO with
    | .ok text => return text.trimAscii.toString
    | .error _ => return ""
  currentDirectory := return Path.ofText (← IO.currentDir).toString
  homeDirectory := return Path.ofText ((← IO.getEnv "HOME").getD "/")
  isTerminal := do (← IO.getStdout).isTty
  kindAt path := kindAt path
  readFile path := attempt [path] do return (← IO.FS.readBinFile path.text).toList
  makeDirectory path := attempt [path] (IO.FS.createDir path.text)
  openTemporary directory start := do
    let here := Path.ofText (← IO.currentDir).toString
    let number ← IO.rand 0 0xFFFFFFFF
    let name := start ++ String.ofList (Text.hexDigits 8 number) ++ ".tmp"
    let path := (Path.resolveFrom here directory).child name
    match ← attempt [path] (IO.FS.Handle.mk path.text .writeNew) with
    | .error error => return .error error
    | .ok handle =>
        modify fun memory => { memory with handles := (path, handle) :: memory.handles }
        return .ok path
  write path text := withHandle path (·.putStr text)
  flush path := withHandle path (·.flush)
  sync path := withHandle path (·.flush)
  close path := do
    modify fun memory => { memory with handles := memory.handles.filter (·.1 ≠ path) }
    return .ok ()
  replace source target := attempt [source, target] (IO.FS.rename source.text target.text)
  remove path := discard (attempt [path] (IO.FS.removeFile path.text))
  save path text := attempt [path] (IO.FS.writeFile path.text text)
  readInput := do
    let bytes ← readAll (← IO.getStdin) .empty
    return (String.fromUTF8? bytes).getD ""
  fetch _ := return .error "network access is not supported"
  print stream text := do
    match stream with
    | .output =>
        (← IO.getStdout).putStr text
        (← IO.getStdout).flush
    | .diagnostics => (← IO.getStderr).putStr text
  readMarkup text := return Markup.read? text
  log note := do (← IO.getStderr).putStr (Output.line ("WARNING  " ++ note))
  startTimer := do
    let now ← IO.monoNanosNow
    modify fun memory => { memory with startedAt := now }
  elapsed := return tenths (((← IO.monoNanosNow) - (← get).startedAt) / 100000)
  timestamp := return toString (← IO.monoMsNow)

end Machine
end RouteIR

/-- Runs the command line.  No renderers are built in. -/
def main (args : List String) : IO UInt32 := do
  let (code, _) ← (RouteIR.Command.main [] args : RouteIR.Machine.Run Nat).run ⟨[], 0⟩
  return code.toUInt32
