import RouteIR.Tree

namespace RouteIR

/-!
# JSON values

The members of an object keep their order, and an integer is not the same value
as a floating-point number that equals it.  Not-a-number and the infinities are
values, as they have a spelling in the texts read and written here.
-/

inductive Json where
  | null
  | bool (value : Bool)
  | int (value : Int)
  | float (value : Binary64)
  | str (text : String)
  | array (items : List Json)
  | object (members : List (String × Json))
deriving Repr

namespace Json

mutual

/-- A JSON value as a document tree. -/
def toTree : Json → Tree
  | null => .null
  | bool value => .bool value
  | int value => .int value
  | float value => .float value
  | str text => .str text
  | array items => .list (toTrees items) none
  | object members => .map (toEntries members) none

def toTrees : List Json → List Tree
  | [] => []
  | item :: rest => item.toTree :: toTrees rest

def toEntries : List (String × Json) → List (Tree × Tree)
  | [] => []
  | (key, value) :: rest => (.str key, value.toTree) :: toEntries rest

end

/-- A floating-point number as JSON, which has one literal for what is not a number. -/
def ofFloat (value : Binary64) : Json := float (value.fromOrigin 0)

def ofNumber : Number → Json
  | .int value => int value
  | .float value => ofFloat value

def ofOption : Option Json → Json
  | none => null
  | some value => value

mutual

/-- Whether a value has a text: whether all integers in it have one. -/
def isLegible : Json → Bool
  | int value => (Number.int value).isLegible
  | array items => areLegible items
  | object members => membersAreLegible members
  | _ => true

def areLegible : List Json → Bool
  | [] => true
  | item :: rest => item.isLegible && areLegible rest

def membersAreLegible : List (String × Json) → Bool
  | [] => true
  | (_, value) :: rest => value.isLegible && membersAreLegible rest

end

end Json
end RouteIR
