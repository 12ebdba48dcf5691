import RouteIR.Keyed
import RouteIR.Schema
import RouteIR.Tree.Text

namespace RouteIR

/-!
# Reading schemas

The form of a node is decided by its keys in a fixed order: a reference, a
composition (refused), an enumeration, then the declared type, where a node with
properties and no type is an object.  All checks on a node itself come before its
children are read, and the first fault in document order is the one reported.  Keys are
read as texts, which a number of too many digits has not.
-/

namespace Tree

theorem sizeOf_lookup? {key : String} {entries : List (Tree × Tree)} {value : Tree}
    (found : lookup? key entries = some value) : sizeOf value < sizeOf entries := by
  induction entries with
  | nil => simp [lookup?] at found
  | cons entry rest ih =>
      obtain ⟨entryKey, entryValue⟩ := entry
      simp only [lookup?] at found
      split at found
      · cases found; simp +arith
      · have := ih found
        simp; omega

theorem sizeOf_field {key : String} {entries inner : List (Tree × Tree)} {label : Option Label}
    (found : field key entries = .map inner label) : sizeOf inner < sizeOf entries := by
  unfold field at found
  cases looked : lookup? key entries with
  | none => simp [looked] at found
  | some value =>
      have := sizeOf_lookup? looked
      simp only [looked, Option.getD_some] at found
      subst found
      simp at this
      omega

end Tree

namespace Schema

/-- How reading a schema ends without one: a fault, a format that is no text, or a key that
has none. -/
inductive Refusal where
  | fault (fault : Fault)
  | formatNotText (reason : TextFault)
  | illegible
deriving Repr

namespace Refusal

def under (step : Step) : Refusal → Refusal
  | fault inner => .fault (inner.under step)
  | formatNotText reason => .formatNotText reason
  | illegible => .illegible

/-- The failure for a node that lies at a location. -/
def located (location : String) : Refusal → Failure
  | fault inner => .rule (inner.located location)
  | formatNotText reason => .notText .format reason
  | illegible => .illegible

end Refusal

def refuse {α : Type} (rule : Rule) : Except Refusal α := .error (.fault (.here rule))

def compositionKeywords : List String := ["allOf", "oneOf", "anyOf", "not"]

/-- The keys that describe the shape itself; all others on a primitive are
constraints. -/
def structuralKeys : List String :=
  ["$ref", "type", "format", "enum", "items", "properties", "required"]

/-- The form of a node, with what its recognition has found already. -/
inductive Form where
  | reference (target : Tree)
  | composition (keyword : String)
  | enumeration (values : Tree)
  | object
  | array
  | primitive (kind : PrimitiveKind)
  | untyped
  | unknown (type : Tree)
deriving Repr

/-- The form that a declared type gives, in the presence of properties or not. -/
def formOfType (type : Tree) (hasProperties : Bool) : Form :=
  match type with
  | .null => if hasProperties then .object else .untyped
  | .str name =>
      if name = "object" then .object
      else if name = "array" then .array
      else match PrimitiveKind.ofText? name with
        | some kind => .primitive kind
        | none => .unknown (.str name)
  | other => .unknown other

def form (entries : List (Tree × Tree)) : Form :=
  match Tree.lookup? "$ref" entries with
  | some target => .reference target
  | none =>
      match compositionKeywords.find? (Tree.hasKey · entries) with
      | some keyword => .composition keyword
      | none =>
          match Tree.lookup? "enum" entries with
          | some values => .enumeration values
          | none => formOfType (Tree.field "type" entries) (Tree.hasKey "properties" entries)

/-! ## Leaves -/

/-- The literals of an enumeration, all of which have to be scalars. -/
def readLiterals : List Tree → Except Rule (List Literal)
  | [] => .ok []
  | value :: rest =>
      match Literal.ofTree? value with
      | none => .error (.invalid (.literalNotScalar value))
      | some literal => (readLiterals rest).map (literal :: ·)

/-- The literals of an enumeration in first-declared order, none twice. -/
def readEnum : Tree → Except Rule Schema
  | .list values _ => (readLiterals values).map fun literals => .enum (Literal.distinct literals)
  | _ => .error (.malformed .enumNotList)

/-- Whether a key declares a constraint. -/
def isConstraintKey : Tree → Bool
  | .str name => !structuralKeys.contains name
  | _ => true

/-- The constraints of a primitive, in document order. -/
def readConstraints (entries : List (Tree × Tree)) : List (String × Tree) :=
  (entries.filter (isConstraintKey ·.1)).map fun entry => (entry.1.display, entry.2)

/-- A primitive.  The keys of its constraints are looked at before its format. -/
def readPrimitive (kind : PrimitiveKind) (entries : List (Tree × Tree)) : Except Refusal Schema :=
  if Tree.keysAreLegible entries then
    match (Tree.field "format" entries).optionalText with
    | .ok format => .ok (.primitive kind format (readConstraints entries))
    | .error reason => .error (.formatNotText reason)
  else .error .illegible

/-! ## Objects -/

/-- The properties of an object; whatever is empty counts as absent. -/
def propertiesOf (entries : List (Tree × Tree)) : Except Rule (List (Tree × Tree)) :=
  if (Tree.field "properties" entries).isEmptyLike then .ok []
  else match Tree.field "properties" entries with
    | .map properties _ => .ok properties
    | _ => .error (.malformed .propertiesNotMapping)

def namesOf : List Tree → Option (List String)
  | [] => some []
  | .str name :: rest => (namesOf rest).map (name :: ·)
  | _ :: _ => none

/-- The names of required properties; whatever is empty counts as absent. -/
def requiredOf (entries : List (Tree × Tree)) : Except Rule (List String) :=
  let declared := Tree.field "required" entries
  if declared.isEmptyLike then .ok []
  else match declared with
    | .list items _ =>
        match namesOf items with
        | some names => .ok names
        | none => .error (.malformed .requiredNotNames)
    | _ => .error (.malformed .requiredNotNames)

/-- A truth value opens or closes an object; a schema there would declare a map, which
is not supported. -/
def opensOrCloses : Tree → Bool
  | .null => true
  | .bool _ => true
  | _ => false

/-- The checks on an object itself, and what they find: its properties and the names
of the required ones. -/
def objectParts (entries : List (Tree × Tree)) :
    Except Fault (List (Tree × Tree) × List String) :=
  match propertiesOf entries, requiredOf entries with
  | .error rule, _ => .error (.here rule)
  | .ok _, .error rule => .error (.here rule)
  | .ok properties, .ok required =>
      match required.find? fun name => !Tree.hasKey name properties with
      | some name => .error (.here (.invalid (.requiredNotProperty name)))
      | none =>
          if !opensOrCloses (Tree.field "additionalProperties" entries) then
            .error ⟨[.additionalProperties], .unsupported .additionalProperties⟩
          else if !(Tree.field "patternProperties" entries).isEmptyLike then
            .error ⟨[.patternProperties], .unsupported .additionalProperties⟩
          else .ok (properties, required)

theorem sizeOf_propertiesOf {entries properties : List (Tree × Tree)}
    (found : propertiesOf entries = .ok properties) :
    sizeOf properties < 1 + sizeOf entries := by
  unfold propertiesOf at found
  split at found
  · cases found
    cases entries <;> simp +arith
  · split at found
    · next looked =>
        cases found
        have := Tree.sizeOf_field looked
        omega
    · cases found

theorem sizeOf_objectParts {entries properties : List (Tree × Tree)} {required : List String}
    (found : objectParts entries = .ok (properties, required)) :
    sizeOf properties < 1 + sizeOf entries := by
  unfold objectParts at found
  split at found
  · cases found
  · cases found
  · next looked _ =>
      have small := sizeOf_propertiesOf looked
      split at found
      · cases found
      · split at found
        · cases found
        · split at found <;> cases found
          exact small

/-! ## Nodes -/

mutual

/-- Reads one schema node. -/
def read (node : Tree) : Except Refusal Schema :=
  match node with
  | .map entries _ =>
      match form entries with
      | .reference target => ((Reference.parse target).mapError (.fault ∘ .here)).map .ref
      | .composition keyword => refuse (.unsupported (.composition keyword))
      | .enumeration values => (readEnum values).mapError (.fault ∘ .here)
      | .object =>
          match _parts : objectParts entries with
          | .error fault => .error (.fault fault)
          | .ok (properties, required) =>
              (readFields properties).map fun fields => .object (Keyed.ofList fields) required
      | .array =>
          match _found : Tree.lookup? "items" entries with
          | none => refuse (.malformed .arrayWithoutItems)
          | some item => ((read item).mapError (.under .items)).map .array
      | .primitive kind => readPrimitive kind entries
      | .untyped => refuse (.malformed .schemaWithoutType)
      | .unknown type => refuse (.unsupported (.schemaType type))
  | _ => refuse (.malformed .schemaNotMapping)
termination_by sizeOf node
decreasing_by
  · have := sizeOf_objectParts _parts
    simp; omega
  · have := Tree.sizeOf_lookup? _found
    simp; omega

/-- Reads the properties of an object in document order. -/
def readFields (properties : List (Tree × Tree)) : Except Refusal (List (String × Schema)) :=
  match properties with
  | [] => .ok []
  | (key, value) :: rest => do
      let field ← key.withText .illegible
        ((read value).mapError (.under (.property key.display)))
      let others ← readFields rest
      return (key.display, field) :: others
termination_by sizeOf properties

end

end Schema
end RouteIR
