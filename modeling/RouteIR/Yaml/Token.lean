import RouteIR.Yaml.Mark

namespace RouteIR
namespace Yaml

/-!
# Tokens of a YAML text
-/

/-- A tag as written: a handle, unless the tag is verbatim, and a suffix. -/
structure TagText where
  handle : Option String
  suffix : String
deriving DecidableEq, Repr

/-- What a directive says. -/
inductive Directive where
  | version (major minor : Nat)
  | tagHandle (handle meaning : String)
  | other
deriving DecidableEq, Repr

inductive TokenKind where
  | streamStart
  | streamEnd
  | directive (content : Directive)
  | documentStart
  | documentEnd
  | blockSequenceStart
  | blockMappingStart
  | blockEnd
  | flowSequenceStart
  | flowMappingStart
  | flowSequenceEnd
  | flowMappingEnd
  | blockEntry
  | flowEntry
  | key
  | value
  | alias (name : String)
  | anchor (name : String)
  | tag (text : TagText)
  | scalar (text : String) (plain : Bool)
deriving DecidableEq, Repr

/-- A token and the places where it starts and ends. -/
structure Token where
  kind : TokenKind
  start : Mark
  stop : Mark
deriving DecidableEq, Repr

end Yaml
end RouteIR
