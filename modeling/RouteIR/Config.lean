import RouteIR.Host
import RouteIR.Json.Reader
import RouteIR.Text.Blank
import RouteIR.Text.Encoding

namespace RouteIR

/-!
# Configuration

Three values are configured: the source document, the package of generated code, and
the file for output.  Each comes from the first place that gives it: the command line,
the environment, the project file in the current directory.
-/

/-- The configuration of a run. -/
structure Config where
  source : Option String
  package : String
  output : Option String
deriving DecidableEq, Repr

inductive ConfigField where
  | source
  | package
  | output
deriving DecidableEq, Repr

namespace ConfigField

def name : ConfigField → String
  | source => "source"
  | package => "package"
  | output => "output"

/-- The environment variable of a value. -/
def variableName : ConfigField → String
  | source => "SPECIR_SOURCE"
  | package => "SPECIR_PACKAGE"
  | output => "SPECIR_OUTPUT"

end ConfigField

/-- What is wrong with a configured value. -/
inductive FieldError where
  | notText (field : ConfigField)
  | badPackage (name : String)
deriving DecidableEq, Repr

namespace FieldError

def field : FieldError → ConfigField
  | notText field => field
  | badPackage _ => .package

def reason : FieldError → String
  | notText _ => "Input should be a valid string"
  | badPackage name =>
      "Value error, package must be a dotted identifier, got " ++ Text.quote name

end FieldError

inductive ConfigError where
  | projectNotJson (path : Path) (description : String)
  | projectNotObject (path : Path)
  | projectUnreadable (path : Path) (error : OsError)
  /-- An integer in the project file has too many digits. -/
  | projectInteger
  /-- The project file does not hold text. -/
  | projectNotText
  /-- It cannot be found out whether there is a project file. -/
  | projectHidden (error : OsError)
  | invalid (errors : List FieldError)
deriving Repr

namespace ConfigError

def projectMessage (path : Path) (reason : String) : String :=
  "Invalid project config at " ++ path.text ++ ": " ++ reason

/-- The message of an error, for those that have one. -/
def message? : ConfigError → Option String
  | projectNotJson path description => some (projectMessage path description)
  | projectNotObject path => some (projectMessage path "expected a JSON object")
  | projectUnreadable path error => some (projectMessage path error.message)
  | projectInteger | projectNotText | projectHidden _ => none
  | invalid errors =>
      some ("Invalid configuration: " ++ toString errors.length ++
        (if errors.length = 1 then " validation error" else " validation errors") ++
        " for GeneratorConfig")

end ConfigError

/-! ## Package names -/

namespace PackageName

def isLetter (char : Char) : Bool :=
  ('a' ≤ char && char ≤ 'z') || ('A' ≤ char && char ≤ 'Z') || char = '_'

def isLetterOrDigit (char : Char) : Bool := isLetter char || ('0' ≤ char && char ≤ '9')

def isSegment : List Char → Bool
  | [] => false
  | first :: rest => isLetter first && rest.all isLetterOrDigit

/-- Whether a text is a sequence of identifiers joined by single dots.  One line feed at
its end is passed over. -/
def isValid (name : String) : Bool := ((Text.dropFinalNewline name.toList).splitOn '.').all isSegment

end PackageName

/-! ## Values and their precedence -/

/-- The values given on the command line. -/
structure ConfigArguments where
  source : Option String
  package : Option String
  output : Option String
deriving DecidableEq, Repr

def ConfigArguments.get (arguments : ConfigArguments) : ConfigField → Option String
  | .source => arguments.source
  | .package => arguments.package
  | .output => arguments.output

namespace Config

/-- The value of a field before it is checked.  An empty variable counts as unset, and
so does null in the project file. -/
def choose (argument environment : Option String) (project : Option Json) : Option Json :=
  match argument with
  | some value => some (.str value)
  | none =>
      match environment with
      | some value => if value.isEmpty then ofProject else some (.str value)
      | none => ofProject
where
  ofProject : Option Json :=
    match project with
    | some .null => none
    | other => other

/-- A value that has to be text when it is there. -/
def checkText (field : ConfigField) : Option Json → Except FieldError (Option String)
  | none => .ok none
  | some (.str value) => .ok (some value)
  | some _ => .error (.notText field)

def defaultPackage : String := "generated"

def checkPackage (value : Option Json) : Except FieldError String :=
  match checkText .package value with
  | .error error => .error error
  | .ok none => .ok defaultPackage
  | .ok (some name) => if PackageName.isValid name then .ok name else .error (.badPackage name)

def errorOf {α : Type} : Except FieldError α → List FieldError
  | .ok _ => []
  | .error error => [error]

/-- Checks all values; the errors come in the order source, package, output. -/
def check (value : ConfigField → Option Json) : Except ConfigError Config :=
  let source := checkText .source (value .source)
  let package := checkPackage (value .package)
  let output := checkText .output (value .output)
  match source, package, output with
  | .ok source, .ok package, .ok output => .ok ⟨source, package, output⟩
  | _, _, _ => .error (.invalid (errorOf source ++ errorOf package ++ errorOf output))

/-! ## The project file -/

/-- The values in the text of a project file. -/
def readProject (path : Path) (content : List UInt8) :
    Except ConfigError (List (String × Json)) :=
  match Text.decodeFile? content with
  | none => .error .projectNotText
  | some text =>
      match Json.read .lastWins text with
      | .ok (.object members) => .ok members
      | .ok _ => .error (.projectNotObject path)
      | .error (.repeatedKey key) => .error (.projectNotJson path key)
      | .error .longInteger => .error .projectInteger
      | .error (.syntaxFault fault remaining) =>
          .error (.projectNotJson path (fault.located text.toList remaining))

variable {m : Type → Type} [Monad m] [Host m]

def projectFileName : String := "specir.json"

/-- The values of the project file, none where there is no such file. -/
def loadProject : m (Except ConfigError (List (String × Json))) := do
  let path := (← Host.currentDirectory).child projectFileName
  match ← Host.kindAt path with
  | .error error => return .error (.projectHidden error)
  | .ok (some .file) =>
      match ← Host.readFile path with
      | .error error => return .error (.projectUnreadable path error)
      | .ok content => return readProject path content
  | .ok _ => return .ok []

/-- The configuration of a run with the given arguments. -/
def resolve (arguments : ConfigArguments) : m (Except ConfigError Config) := do
  match ← loadProject with
  | .error error => return .error error
  | .ok project =>
      let source ← Host.environment ConfigField.source.variableName
      let package ← Host.environment ConfigField.package.variableName
      let output ← Host.environment ConfigField.output.variableName
      let environment : ConfigField → Option String
        | .source => source
        | .package => package
        | .output => output
      return check fun field =>
        choose (arguments.get field) (environment field) (project.lookup field.name)

end Config
end RouteIR
