import RouteIR.Path
import RouteIR.Text.Quoted

namespace RouteIR

/-!
# File systems

A file system without links maps places, which are lists of names from the root, to
directories and files.  The root is a directory.  A path is followed part by part,
and every part but the last has to lead to a directory that exists.  There is a limit to the
length of a name and one to the length of a whole path, both counted in bytes.
-/

/-- Why an operation on files fails. -/
inductive OsFault where
  | notFound
  | busy
  | exists
  | notDirectory
  | isDirectory
  | nameTooLong
deriving DecidableEq, Repr

namespace OsFault

def code : OsFault → Nat
  | notFound => 2
  | busy => 16
  | «exists» => 17
  | notDirectory => 20
  | isDirectory => 21
  | nameTooLong => 36

def text : OsFault → String
  | notFound => "No such file or directory"
  | busy => "Device or resource busy"
  | «exists» => "File exists"
  | notDirectory => "Not a directory"
  | isDirectory => "Is a directory"
  | nameTooLong => "File name too long"

/-- All faults, each of which is known by its number. -/
def all : List OsFault := [notFound, busy, «exists», notDirectory, isDirectory, nameTooLong]

end OsFault

/-- A fault with its number, its text and the paths it is about. -/
structure OsError where
  code : Nat
  reason : String
  paths : List String
deriving DecidableEq, Repr

namespace OsError

def ofFault (fault : OsFault) (paths : List Path) : OsError :=
  ⟨fault.code, fault.text, paths.map Path.text⟩

def message (error : OsError) : String :=
  let about := match error.paths with
    | [] => ""
    | paths => ": " ++ " -> ".intercalate (paths.map Text.quote)
  "[Errno " ++ toString error.code ++ "] " ++ error.reason ++ about

end OsError

/-- A place in a file system: the names from the root. -/
abbrev Place := List String

inductive Entry where
  | directory
  | file (content : List UInt8)
deriving DecidableEq, Repr

/-- The entries of a file system, each place at most once.  The root is not listed. -/
structure FileSystem where
  entries : List (Place × Entry)
deriving Repr

namespace FileSystem

def empty : FileSystem := ⟨[]⟩

def entry? (files : FileSystem) (place : Place) : Option Entry :=
  if place = [] then some .directory else files.entries.lookup place

def content? (files : FileSystem) (place : Place) : Option (List UInt8) :=
  match files.entry? place with
  | some (.file content) => some content
  | _ => none

def removeAt (files : FileSystem) (place : Place) : FileSystem :=
  ⟨files.entries.filter fun entry => entry.1 ≠ place⟩

def putAt (files : FileSystem) (place : Place) (entry : Entry) : FileSystem :=
  ⟨(place, entry) :: (files.removeAt place).entries⟩

/-- The greatest number of bytes in a name. -/
def nameLimit : Nat := 255

/-- The greatest number of bytes in the text of a path. -/
def pathLimit : Nat := 4095

/-- Follows parts from a place.  What the last part names need not exist, but it has to be
short enough for a name. -/
def follow (files : FileSystem) (place : Place) : List String → Except OsFault Place
  | [] => .ok place
  | part :: rest =>
      match files.entry? place with
      | none => .error .notFound
      | some (.file _) => .error .notDirectory
      | some .directory =>
          if part = ".." then follow files place.dropLast rest
          else if nameLimit < part.utf8ByteSize then .error .nameTooLong
          else follow files (place ++ [part]) rest

/-- The place of a path, seen from the current directory. -/
def locate (files : FileSystem) (current : Place) (path : Path) : Except OsFault Place :=
  if pathLimit < path.text.utf8ByteSize then .error .nameTooLong
  else files.follow (if path.absolute then [] else current) path.parts

/-- Makes one directory. -/
def makeDirectory (files : FileSystem) (current : Place) (path : Path) :
    Except OsFault FileSystem := do
  let place ← files.locate current path
  match files.entry? place with
  | some _ => .error .exists
  | none => .ok (files.putAt place .directory)

/-- Makes a file that does not exist yet. -/
def createFile (files : FileSystem) (current : Place) (path : Path) :
    Except OsFault FileSystem := do
  let place ← files.locate current path
  match files.entry? place with
  | some _ => .error .exists
  | none => .ok (files.putAt place (.file []))

/-- Adds to the end of a file. -/
def append (files : FileSystem) (current : Place) (path : Path) (content : List UInt8) :
    Except OsFault FileSystem := do
  let place ← files.locate current path
  match files.entry? place with
  | none => .error .notFound
  | some .directory => .error .isDirectory
  | some (.file before) => .ok (files.putAt place (.file (before ++ content)))

/-- Gives a file new content, making it where it does not exist. -/
def saveFile (files : FileSystem) (current : Place) (path : Path) (content : List UInt8) :
    Except OsFault FileSystem := do
  let place ← files.locate current path
  match files.entry? place with
  | some .directory => .error .isDirectory
  | _ => .ok (files.putAt place (.file content))

/-- Removes a file. -/
def removeFile (files : FileSystem) (current : Place) (path : Path) :
    Except OsFault FileSystem := do
  let place ← files.locate current path
  match files.entry? place with
  | none => .error .notFound
  | some .directory => .error .isDirectory
  | some (.file _) => .ok (files.removeAt place)

/-- Whether a path names its target by dots or not at all. -/
def isUnnamed (path : Path) : Bool := path.name = "" || path.name = ".."

/-- Moves a file over another, which it replaces in one step. -/
def replaceFile (files : FileSystem) (current : Place) (source target : Path) :
    Except OsFault FileSystem := do
  let sourcePlace ← files.locate current source
  let targetPlace ← files.locate current target
  if isUnnamed target then .error .busy
  match files.entry? sourcePlace, files.entry? targetPlace with
  | none, _ => .error .notFound
  | some .directory, _ => .error .isDirectory
  | some (.file _), some .directory => .error .isDirectory
  | some (.file content), _ =>
      if sourcePlace = targetPlace then .ok files
      else .ok ((files.removeAt sourcePlace).putAt targetPlace (.file content))

/-- All files with their contents. -/
def fileList (files : FileSystem) : List (Place × List UInt8) :=
  files.entries.filterMap fun entry =>
    match entry.2 with
    | .file content => some (entry.1, content)
    | .directory => none

end FileSystem
end RouteIR
