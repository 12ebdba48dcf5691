import RouteIR.Schema
import RouteIR.TypeExpr

namespace RouteIR

/-!
# From schemas to type expressions

An object becomes a record, and only as the whole of a component: anywhere else it
has to be referred to by name.  A reference needs no more than the name of a
component, so each schema is lowered by itself.
-/

/-- Where a schema stands. -/
inductive Position where
  /-- The whole of a component. -/
  | component
  /-- A property of an object, or the items of an array below a component. -/
  | nested
  /-- A parameter, a body or a response, or the items of an array below one. -/
  | route
deriving DecidableEq, Repr

namespace Position

/-- The position of the items of an array. -/
def ofItems : Position → Position
  | route => route
  | component | nested => nested

/-- What an inline object is called where it is not allowed. -/
def objectFeature : Position → Feature
  | route => .anonymousInlineType
  | component | nested => .nestedObject

end Position

namespace Primitive

/-- The primitive that declared constraints give, all of which have to apply to its
kind. -/
def ofConstraints (kind : PrimitiveKind) (format : Option String)
    (constraints : List (String × Tree)) : Except Rule Primitive := do
  let refinements ← Refinement.normalForm (constraints.map fun entry => .declared entry.1 entry.2)
  match refinements.find? fun refinement => !refinement.kind.appliesTo kind with
  | some refinement => .error (.invalid (.inapplicable refinement.kind kind))
  | none => .ok ⟨kind, format, refinements⟩

end Primitive

namespace TypeExpr

mutual

/-- The type of a schema in a document whose components have the given names. -/
def ofSchema (components : List String) (position : Position) : Schema → Except Fault TypeExpr
  | .object fields required =>
      match position with
      | .component => (ofFields components required fields).map record
      | .nested | .route => .error (.here (.unsupported position.objectFeature))
  | .array element =>
      ((ofSchema components position.ofItems element).mapError (.under .items)).map array
  | .primitive kind format constraints =>
      ((Primitive.ofConstraints kind format constraints).mapError .here).map primitive
  | .enum values =>
      if values.isEmpty then .error (.here (.invalid .emptyEnum)) else .ok (enum values)
  | .ref name =>
      if components.contains name then .ok (ref name) else .error (.here (.unresolved name))

/-- The fields of an object in order. -/
def ofFields (components required : List String) :
    List (String × Schema) → Except Fault (List (Field TypeExpr))
  | [] => .ok []
  | (name, schema) :: rest => do
      let type ← (ofSchema components .nested schema).mapError (.under (.property name))
      let others ← ofFields components required rest
      return ⟨name, type, required.contains name⟩ :: others

end

end TypeExpr
end RouteIR
