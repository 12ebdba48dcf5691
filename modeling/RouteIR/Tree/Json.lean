import RouteIR.Json
import RouteIR.Keyed
import RouteIR.Tree.Text

namespace RouteIR
namespace Tree

/-!
# Trees as JSON

What only a tagged document can hold is written in the nearest JSON form: times as
text, bytes as the text they encode, tuples and sets as arrays.  A number that is not
finite becomes null, and keys become text.  Bytes that encode no text have no JSON form, nor
has a value that lies inside itself; the first of either in reading order is the fault.
-/

/-- Why a tree has no JSON form. -/
inductive JsonFault where
  /-- Bytes that are not UTF-8. -/
  | notEncoded
  | endless
deriving DecidableEq, Repr

/-- The text of bytes in UTF-8. -/
def bytesText (content : List UInt8) : Except JsonFault String :=
  match String.fromUTF8? ⟨content.toArray⟩ with
  | some text => .ok text
  | none => .error .notEncoded

/-- A key as the name of an object member.  A number that is not finite shares its name with
null. -/
def memberName : Tree → Except JsonFault String
  | bool value => .ok (if value then "true" else "false")
  | float (.nan _) | float (.infinity _) => .ok null.display
  | bytes content => bytesText content
  | dateTime value => .ok value.serialText
  | key => .ok key.display

mutual

/-- A tree as JSON, inside the values with the given labels. -/
def toJsonWithin (around : List Label) : Tree → Except JsonFault Json
  | null => .ok .null
  | bool value => .ok (.bool value)
  | int value => .ok (.int value)
  | float (.nan _) => .ok .null
  | float (.infinity _) => .ok .null
  | float value => .ok (.float value)
  | str text => .ok (.str text)
  | bytes content => (bytesText content).map .str
  | date value => .ok (.str value.isoText)
  | dateTime value => .ok (.str value.serialText)
  | list items label =>
      if recurs around label then .error .endless
      else (toJsons (label.toList ++ around) items).map .array
  | tuple items label =>
      if recurs around label then .error .endless
      else (toJsons (label.toList ++ around) items).map .array
  | set members => (toJsons around members).map .array
  | map entries label =>
      if recurs around label then .error .endless
      else (toMembers (label.toList ++ around) entries).map fun members =>
        .object (Keyed.ofList members)

def toJsons (around : List Label) : List Tree → Except JsonFault (List Json)
  | [] => .ok []
  | item :: rest => do
      let first ← item.toJsonWithin around
      return first :: (← toJsons around rest)

def toMembers (around : List Label) : List (Tree × Tree) → Except JsonFault (List (String × Json))
  | [] => .ok []
  | (key, value) :: rest => do
      let name ← key.memberName
      let member ← value.toJsonWithin around
      return (name, member) :: (← toMembers around rest)

end

def toJson (tree : Tree) : Except JsonFault Json := tree.toJsonWithin []

end Tree
end RouteIR
