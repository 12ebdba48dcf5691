import RouteIR.Text.Quoted
import RouteIR.Tree.Text
import RouteIR.Yaml.Mark

namespace RouteIR
namespace Yaml

/-!
# Why a YAML text is refused

Faults of syntax are not told apart.  Faults of the document, such as an alias
without anchor or a repeated key, name one or two places of the text.  The last
group holds values whose tag promises more than their text keeps; no message is
defined for them, nor for a repeated key without a text.
-/

/-- The three kinds of node. -/
inductive NodeKind where
  | scalar
  | sequence
  | mapping
deriving DecidableEq, Repr

def NodeKind.name : NodeKind → String
  | scalar => "scalar"
  | sequence => "sequence"
  | mapping => "mapping"

/-- The activity during which a fault was met. -/
inductive Activity where
  | mapping
  | orderedMap
  | pairs
deriving DecidableEq, Repr

def Activity.text : Activity → String
  | mapping => "while constructing a mapping"
  | orderedMap => "while constructing an ordered map"
  | pairs => "while constructing pairs"

inductive Failure where
  | syntaxError
  | undefinedAlias (name : String) (place : Mark)
  | duplicateAnchor (name : String) (first second : Mark)
  | secondDocument (first second : Mark)
  | recursiveNode (place : Mark)
  | unknownTag (tag : String) (place : Mark)
  | wrongKind (expected found : NodeKind) (place : Mark)
  | notMergeable (mapping : Mark) (found : NodeKind) (insideList : Bool) (place : Mark)
  | duplicateKey (mapping : Mark) (key : Tree) (place : Mark)
  | unhashableKey (mapping place : Mark)
  | notASequence (activity : Activity) (node : Mark) (found : NodeKind)
  | notAPair (activity : Activity) (node : Mark) (found : NodeKind) (place : Mark)
  | notSinglePair (activity : Activity) (node : Mark) (count : Nat) (place : Mark)
  /-- A compound value stands as the key of a mapping. -/
  | compoundKey (kind : Compound)
  /-- A mapping was promised, and what the node holds is no entry. -/
  | notAnEntry (found : NodeKind)
  /-- A number or a time lies outside its range, or its text is none. -/
  | invalidNumber
  /-- A text is no truth value. -/
  | unknownTruthValue
  /-- A number was promised, and the text is empty. -/
  | emptyNumber
  /-- A time was promised, and the text is none. -/
  | notATimestamp
  /-- An escape names a number far beyond the characters. -/
  | hugeEscape
  /-- A number lies beyond those of its format. -/
  | hugeNumber
  /-- A text is lent by a mapping that borrows it from itself. -/
  | endlessText
deriving Repr

/-- A message in the order context, its place, problem, its place.  A context place
that shares line and column with the problem's is left out. -/
private def twoPlaces (text : List Char) (context : String) (first : Mark) (problem : String)
    (second : Mark) : String :=
  let shown :=
    if first.line = second.line ∧ first.column = second.column then []
    else [first.describe text]
  "\n".intercalate ([context] ++ shown ++ [problem, second.describe text])

private def onePlace (text : List Char) (problem : String) (place : Mark) : String :=
  problem ++ "\n" ++ place.describe text

/-- The message of a failure, for those that have one. -/
def Failure.message? (text : List Char) : Failure → Option String
  | syntaxError => some "<syntax>"
  | undefinedAlias name place =>
      some (onePlace text ("found undefined alias " ++ Text.quote name) place)
  | duplicateAnchor name first second =>
      some (twoPlaces text ("found duplicate anchor " ++ Text.quote name ++ "; first occurrence")
        first "second occurrence" second)
  | secondDocument first second =>
      some (twoPlaces text "expected a single document in the stream" first
        "but found another document" second)
  | recursiveNode place => some (onePlace text "found unconstructable recursive node" place)
  | unknownTag tag place =>
      some (onePlace text ("could not determine a constructor for the tag " ++ Text.quote tag)
        place)
  | wrongKind expected found place =>
      some (onePlace text
        ("expected a " ++ expected.name ++ " node, but found " ++ found.name) place)
  | notMergeable mapping found insideList place =>
      let wanted := if insideList then "a mapping" else "a mapping or list of mappings"
      some (twoPlaces text Activity.mapping.text mapping
        ("expected " ++ wanted ++ " for merging, but found " ++ found.name) place)
  | duplicateKey mapping key place =>
      if key.isLegible then
        some (twoPlaces text Activity.mapping.text mapping ("found duplicate key " ++ key.quoted)
          place)
      else none
  | unhashableKey mapping place =>
      some (twoPlaces text Activity.mapping.text mapping "found unhashable key" place)
  | notASequence activity node found =>
      some (twoPlaces text activity.text node ("expected a sequence, but found " ++ found.name)
        node)
  | notAPair activity node found place =>
      some (twoPlaces text activity.text node
        ("expected a mapping of length 1, but found " ++ found.name) place)
  | notSinglePair activity node count place =>
      some (twoPlaces text activity.text node
        ("expected a single mapping item, but found " ++ toString count ++ " items") place)
  | compoundKey _ | notAnEntry _ | invalidNumber | unknownTruthValue | emptyNumber
  | notATimestamp | hugeEscape | hugeNumber | endlessText => none

end Yaml
end RouteIR
