import RouteIR.Host
import RouteIR.Output.Markup

namespace RouteIR

/-!
# Worlds

A world is a host that is a value: its files, its environment and the answers it gives
are known before a command runs, and what the command did is known after.  The steps
of writing a file can be made to fail, each one by itself.
-/

structure World where
  files : FileSystem
  current : Place
  home : Path
  environment : List (String × String)
  system : String
  terminal : Bool
  input : String
  /-- The network's answer to every request. -/
  answer : Except String Response
  /-- What a console shows for a text with marks, absent where it cannot read them. -/
  markup : String → Option String
  /-- What stands for the random part of temporary names. -/
  randomPart : String
  elapsed : String
  timestamp : String
  /-- What is to happen to the next steps of writing: a fault, or none. -/
  faults : List (Option OsError)
  output : String
  diagnostics : String
  notes : List String

namespace World

/-- A world with nothing in it but a current directory and a home. -/
def bare (current : Place) (home : Path) : World where
  files := .empty
  current := current
  home := home
  environment := []
  system := "Linux"
  terminal := false
  input := ""
  answer := .error "no network"
  markup := Markup.read?
  randomPart := "0"
  elapsed := "0.0"
  timestamp := "0"
  faults := []
  output := ""
  diagnostics := ""
  notes := []

abbrev Run := StateM World

/-- Takes the fate of the next step of writing. -/
def nextFault : Run (Option OsError) := fun world =>
  match world.faults with
  | [] => (none, world)
  | fault :: rest => (fault, { world with faults := rest })

/-- A change of the files, with the paths that its fault is about. -/
def change (paths : List Path) (step : FileSystem → Place → Except OsFault FileSystem) :
    Run (Except OsError Unit) := fun world =>
  match step world.files world.current with
  | .error fault => (.error (.ofFault fault paths), world)
  | .ok files => (.ok (), { world with files := files })

/-- A step of writing: it fails when it is meant to, else it changes the files. -/
def writingStep (paths : List Path) (step : FileSystem → Place → Except OsFault FileSystem) :
    Run (Except OsError Unit) := do
  match ← nextFault with
  | some error => return .error error
  | none => change paths step

/-- A step of writing that changes no file that can be seen. -/
def quietStep : Run (Except OsError Unit) := writingStep [] fun files _ => .ok files

def kindAt (world : World) (path : Path) : Except OsError (Option EntryKind) :=
  if !path.isNameable then .ok none
  else match world.files.locate world.current path with
    | .error .nameTooLong => .error (.ofFault .nameTooLong [path])
    | .error _ => .ok none
    | .ok place =>
        match world.files.entry? place with
        | none => .ok none
        | some .directory => .ok (some .directory)
        | some (.file _) => .ok (some .file)

def readAt (world : World) (path : Path) : Except OsError (List UInt8) :=
  match world.files.locate world.current path with
  | .error fault => .error (.ofFault fault [path])
  | .ok place =>
      match world.files.entry? place with
      | none => .error (.ofFault .notFound [path])
      | some .directory => .error (.ofFault .isDirectory [path])
      | some (.file content) => .ok content

/-- The name of the temporary file for a name that starts with the given text.  Its
directory is seen from the root. -/
def temporaryPath (world : World) (directory : Path) (start : String) : Path :=
  (Path.resolveFrom ⟨true, world.current⟩ directory).child (start ++ world.randomPart ++ ".tmp")

instance : Host Run where
  environment name := return (← get).environment.lookup name
  system := return (← get).system
  currentDirectory := return ⟨true, (← get).current⟩
  homeDirectory := return (← get).home
  isTerminal := return (← get).terminal
  kindAt path := return (← get).kindAt path
  readFile path := return (← get).readAt path
  makeDirectory path := change [path] fun files current => files.makeDirectory current path
  openTemporary directory start := do
    let path := (← get).temporaryPath directory start
    match ← writingStep [path] fun files current => files.createFile current path with
    | .error error => return .error error
    | .ok () => return .ok path
  write path text :=
    writingStep [path] fun files current => files.append current path text.toUTF8.toList
  flush _ := quietStep
  sync _ := quietStep
  close _ := quietStep
  replace source target :=
    writingStep [source, target] fun files current => files.replaceFile current source target
  remove path := discard (change [path] fun files current => files.removeFile current path)
  save path text :=
    change [path] fun files current => files.saveFile current path text.toUTF8.toList
  readInput := return (← get).input
  fetch _ := return (← get).answer
  print stream text := modify fun world =>
    match stream with
    | .output => { world with output := world.output ++ text }
    | .diagnostics => { world with diagnostics := world.diagnostics ++ text }
  readMarkup text := return (← get).markup text
  log note := modify fun world => { world with notes := world.notes ++ [note] }
  startTimer := return ()
  elapsed := return (← get).elapsed
  timestamp := return (← get).timestamp

end World
end RouteIR
