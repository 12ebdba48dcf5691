import RouteIR.OutputFile

namespace RouteIR
namespace DataDirectory

/-!
# The data directory

Where the program keeps what is no one's document: reports of crashes.  Linux and the
BSD systems have a place for such data, which a variable may move; elsewhere it is a
hidden directory in the home directory.
-/

def applicationName : String := "specir"

/-- Whether a system keeps data in a place of its own. -/
def hasDataHome (system : String) : Bool :=
  system = "Linux" || "BSD".toList.isSuffixOf system.toList

def pathFor (system : String) (home : Path) (dataHome : Option String) : Path :=
  if hasDataHome system then
    match dataHome with
    | none | some "" => ((home.child ".local").child "share").child applicationName
    | some place => (Path.ofText place).child applicationName
  else home.child ("." ++ applicationName)

variable {m : Type → Type} [Monad m] [Host m]

/-- The data directory, made where it is missing. -/
def ensure : m (Except OsError Path) := do
  let path := pathFor (← Host.system) (← Host.homeDirectory) (← Host.environment "XDG_DATA_HOME")
  match ← OutputFile.ensureDirectory path with
  | .error error => return .error error
  | .ok () => return .ok path

end DataDirectory
end RouteIR
