import RouteIR.Host

namespace RouteIR
namespace OutputFile

/-!
# Writing files

A file is written under a temporary name beside its target and then moved over it, so
that a reader of the target finds the old content or the new, and nothing else.  The
rendered files of a document stay inside their output directory.
-/

inductive WriteError where
  | failed (target : Path) (error : OsError)
  | escapes (relative : String)
  /-- The path starts in a home directory that is not known. -/
  | unknownHome
  /-- The path holds a character that no name does. -/
  | unnameable
deriving DecidableEq, Repr

/-- The message of an error, for those that have one. -/
def WriteError.message? : WriteError → Option String
  | failed target error => some ("Cannot write " ++ target.text ++ ": " ++ error.message)
  | escapes relative => some ("Rendered path escapes the output directory: " ++ relative)
  | unknownHome | unnameable => none

variable {m : Type → Type} [Monad m] [Host m]

/-- A directory that cannot be made is no loss if it exists. -/
def settle (path : Path) : Except OsError Unit → m (Except OsError Unit)
  | .ok () => return .ok ()
  | .error error => do
      match ← Host.kindAt path with
      | .error second => return .error second
      | .ok kind => return if kind = some .directory then .ok () else .error error

/-- Makes a directory, and first those above it that are missing, up to a depth. -/
def ensureWithin : Nat → Path → m (Except OsError Unit)
  | 0, path => do settle path (← Host.makeDirectory path)
  | depth + 1, path => do
      let made ← Host.makeDirectory path
      match made with
      | .error ⟨2, _, _⟩ =>
          match ← ensureWithin depth path.parent with
          | .error error => return .error error
          | .ok () => settle path (← Host.makeDirectory path)
      | outcome => settle path outcome

/-- Makes a directory with all directories above it. -/
def ensureDirectory (path : Path) : m (Except OsError Unit) :=
  ensureWithin path.parts.length path

/-- Puts a text into an open temporary file, and closes it. -/
def fill (temporary : Path) (text : String) : ExceptT OsError m Unit := do
  ExceptT.mk (Host.write temporary text)
  ExceptT.mk (Host.flush temporary)
  ExceptT.mk (Host.sync temporary)
  ExceptT.mk (Host.close temporary)

/-- Gives up a temporary file that may still be open. -/
def abandon (temporary : Path) (error : OsError) : m (Except OsError Unit) := do
  match ← Host.close temporary with
  | .error second => return .error second
  | .ok () =>
      Host.remove temporary
      return .error error

/-- Moves a complete temporary file over its target. -/
def install (temporary target : Path) : m (Except OsError Unit) := do
  match ← Host.replace temporary target with
  | .ok () => return .ok ()
  | .error error =>
      Host.remove temporary
      return .error error

/-- Writes a text to a file in one step. -/
def writeAtomically (target : Path) (text : String) : m (Except OsError Unit) := do
  match ← ensureDirectory target.parent with
  | .error error => return .error error
  | .ok () =>
      match ← Host.openTemporary target.parent ("." ++ target.name ++ ".") with
      | .error error => return .error error
      | .ok temporary =>
          match ← (fill temporary text).run with
          | .error error => abandon temporary error
          | .ok () => install temporary target

/-- A path with the home directory put in.  The parts behind it are looked at last. -/
def expandHome (path : Path) : m (Except WriteError Path) := do
  match path.expandHome? (← Host.homeDirectory) with
  | none =>
      return .error (if path.parts.head?.all Path.isNameText then .unknownHome else .unnameable)
  | some expanded => return if expanded.isNameable then .ok expanded else .error .unnameable

/-- Writes a text to a path and gives the path back. -/
def write (path : Path) (text : String) : m (Except WriteError Path) := do
  match ← expandHome path with
  | .error error => return .error error
  | .ok target =>
      match ← writeAtomically target text with
      | .error error => return .error (.failed target error)
      | .ok () => return .ok target

/-- Writes files below a resolved directory in order, up to the first that fails. -/
def writeBelow (root : Path) : List (String × String) → m (Except WriteError (List Path))
  | [] => return .ok []
  | (relative, text) :: rest => do
      let target := Path.resolveFrom root (.ofText relative)
      if !Path.isNameText relative then return .error .unnameable
      else if Path.isWithin root target then
        match ← write target text with
        | .error error => return .error error
        | .ok path => return (← writeBelow root rest).map (path :: ·)
      else return .error (.escapes relative)

/-- Writes files under an output directory. -/
def writeAll (directory : String) (files : List (String × String)) :
    m (Except WriteError (List Path)) := do
  match ← expandHome (.ofText directory) with
  | .error error => return .error error
  | .ok expanded => writeBelow (Path.resolveFrom (← Host.currentDirectory) expanded) files

end OutputFile
end RouteIR
