import RouteIR.Json.Reader
import RouteIR.Yaml.Value

namespace RouteIR
namespace Source

/-!
# From text to tree

The text of a document is JSON or YAML.  Where nothing tells which, JSON is tried
first and YAML takes over on a syntax error; a key repeated in a JSON object is no
syntax error, nor is an integer of too many digits, and YAML does not take over.  Either
way the root has to be a mapping.
-/

/-- What is known of the format of a text. -/
inductive Format where
  | json
  | yaml
  | unknown
deriving DecidableEq, Repr

inductive ContentError where
  /-- The text was promised to be JSON. -/
  | json (description : String)
  | repeatedKey (key : String)
  /-- An integer of a JSON text has too many digits. -/
  | longInteger
  | rootNotMapping (root : Tree)
  /-- The text is YAML and holds no document, or a null one. -/
  | emptyDocument
  /-- No format fits.  JSON has not been tried where the text was promised to be YAML. -/
  | noFormat (json : Option String) (yaml : String)
  /-- A YAML value has the form of its tag and denotes nothing. -/
  | badValue (failure : Yaml.Failure)
deriving Repr

/-- The message of an error, for those that have one. -/
def ContentError.message? : ContentError → Option String
  | json description => some ("Invalid JSON: " ++ description)
  | repeatedKey key => some ("Invalid JSON: duplicate key " ++ Text.quote key)
  | rootNotMapping root =>
      some ("Document must be a JSON/YAML object (got " ++ root.kindName ++ ")")
  | emptyDocument => some "Document must be a JSON/YAML object (got empty document)"
  | noFormat jsonFault yamlFault =>
      let jsonLine := match jsonFault with
        | none => ""
        | some description => "\n  JSON error: " ++ description
      some ("Failed to parse document as JSON or YAML" ++ jsonLine ++ "\n  YAML error: " ++ yamlFault)
  | longInteger | badValue _ => none

/-- The tree, if it is a mapping. -/
def requireMapping : Tree → Except ContentError Tree
  | .map entries label => .ok (.map entries label)
  | other => .error (.rootNotMapping other)

/-- Reads a text as YAML, after JSON has failed with a description or was not tried. -/
def readYaml (jsonFault : Option String) (text : String) : Except ContentError Tree :=
  match Yaml.read .strict text with
  | .ok .null => .error .emptyDocument
  | .ok tree => requireMapping tree
  | .error failure =>
      match failure.message? text.toList with
      | some message => .error (.noFormat jsonFault message)
      | none => .error (.badValue failure)

/-- Reads the text of a document. -/
def readContent (format : Format) (text : String) : Except ContentError Tree :=
  if format = .yaml then readYaml none text
  else match Json.read .strict text with
    | .ok value => requireMapping value.toTree
    | .error (.repeatedKey key) => .error (.repeatedKey key)
    | .error .longInteger => .error .longInteger
    | .error (.syntaxFault fault remaining) =>
        let description := fault.located text.toList remaining
        if format = .json then .error (.json description) else readYaml (some description) text

end Source
end RouteIR
