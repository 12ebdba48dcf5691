import RouteIR.Refinement

namespace RouteIR

/-!
# Type expressions

The types of the intermediate representation.  A reference names a component and is
looked up when it is needed, so that components may refer to one another in any
order and cycles stay finite.  A record is the type of a component that was declared
as an object; lowering puts none inside another type.
-/

/-- A scalar type with its refinements in canonical order. -/
structure Primitive where
  kind : PrimitiveKind
  format : Option String
  refinements : List Refinement
deriving DecidableEq, Repr

/-- A named part of a record. -/
structure Field (α : Type) where
  name : String
  type : α
  required : Bool
deriving Repr

inductive TypeExpr where
  | primitive (primitive : Primitive)
  | array (element : TypeExpr)
  | enum (values : List Literal)
  | ref (name : String)
  | record (fields : List (Field TypeExpr))
deriving Repr

/-- The coarse shape of a type, all that a renderer has to tell apart first. -/
inductive TypeShape where
  | primitive
  | array
  | enum
  | reference
  | record
deriving DecidableEq, Repr

def TypeShape.text : TypeShape → String
  | primitive => "primitive"
  | array => "array"
  | enum => "enum"
  | reference => "reference"
  | record => "record"

namespace TypeExpr

def shape : TypeExpr → TypeShape
  | primitive _ => .primitive
  | array _ => .array
  | enum _ => .enum
  | ref _ => .reference
  | record _ => .record

/-- The refinements of a primitive; other types have none of their own. -/
def refinements : TypeExpr → List Refinement
  | primitive scalar => scalar.refinements
  | _ => []

def isPrimitive : TypeExpr → Bool
  | primitive _ => true
  | _ => false

mutual

/-- The names of all references inside a type, from left to right. -/
def names : TypeExpr → List String
  | primitive _ => []
  | array element => element.names
  | enum _ => []
  | ref name => [name]
  | record fields => fieldNames fields

def fieldNames : List (Field TypeExpr) → List String
  | [] => []
  | ⟨_, type, _⟩ :: rest => type.names ++ fieldNames rest

end

/-- The components that a type refers to directly, each once, in the order of first
occurrence.  References are not followed: these are what the declaration of the type
alone depends on. -/
def referenced (type : TypeExpr) : List String := type.names.eraseDups

mutual

/-- The number of nodes of a type. -/
def weight : TypeExpr → Nat
  | primitive _ => 1
  | array element => element.weight + 1
  | enum _ => 1
  | ref _ => 1
  | record fields => fieldsWeight fields + 1

def fieldsWeight : List (Field TypeExpr) → Nat
  | [] => 0
  | ⟨_, type, _⟩ :: rest => type.weight + fieldsWeight rest

end

end TypeExpr
end RouteIR
