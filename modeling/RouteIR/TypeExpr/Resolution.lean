import RouteIR.Keyed
import RouteIR.TypeExpr.Lowering

namespace RouteIR

/-!
# Aliases

A component whose type is a reference is an alias.  Resolving a type follows aliases
to the first type that is none; references inside arrays and records are left alone,
so that recursive data types resolve.  A chain of aliases that leads through more
components than there are has met one of them twice, and never ends.
-/

/-- Named types, in document order. -/
abbrev Components := List (String × TypeExpr)

namespace Components

/-- Follows a chain of aliases for a number of links. -/
def follow (components : Components) : Nat → TypeExpr → Except Rule TypeExpr
  | 0, .ref _ => .error (.invalid .circularAlias)
  | links + 1, .ref name =>
      match components.lookup name with
      | none => .error (.unresolved name)
      | some target => follow components links target
  | _, type => .ok type

/-- The type that a chain of aliases ends with. -/
def resolve (components : Components) (type : TypeExpr) : Except Rule TypeExpr :=
  components.follow (components.length + 1) type

/-- The element of what resolves to an array whose element resolves to a primitive. -/
def listElement? (components : Components) (type : TypeExpr) : Except Rule (Option Primitive) := do
  match ← components.resolve type with
  | .array element =>
      match ← components.resolve element with
      | .primitive scalar => return some scalar
      | _ => return none
  | _ => return none

/-- Whether a type resolves to an array of primitives. -/
def isPrimitiveList (components : Components) (type : TypeExpr) : Except Rule Bool :=
  (components.listElement? type).map Option.isSome

/-! ## The components of a document -/

def location (name : String) : String := "components.schemas." ++ name

def ofSchemaList (names : List String) :
    List (String × Schema) → Except Violation Components
  | [] => .ok []
  | (name, schema) :: rest => do
      let type ← (TypeExpr.ofSchema names .component schema).mapError (Fault.located (location name))
      return (name, type) :: (← ofSchemaList names rest)

/-- Every component has to resolve. -/
def checkAliases (components : Components) : List String → Except Violation Unit
  | [] => .ok ()
  | name :: rest => do
      discard <| (components.resolve (.ref name)).mapError (⟨location name, ·⟩)
      checkAliases components rest

/-- The types of the components of a document, in document order. -/
def ofSchemas (schemas : List (String × Schema)) : Except Violation Components := do
  let names := Keyed.keys schemas
  let components ← ofSchemaList names schemas
  checkAliases components names
  return components

end Components
end RouteIR
