import RouteIR.Schema

namespace RouteIR

/-!
# API descriptions as declared

The typed form of a document: its component schemas, and for every path the
operations in declaration order.  Parameters of a path have been merged into its
operations.
-/

/-- A parameter with its schema as declared. -/
structure DeclaredParameter where
  name : String
  location : ParameterLocation
  required : Bool
  schema : Schema
deriving Repr

structure Operation where
  method : Method
  operationId : Option String
  parameters : List DeclaredParameter
  requestBody : Option Schema
  /-- The schema of each response that carries one, by status. -/
  responses : List (String × Option Schema)
deriving Repr

structure Document where
  components : List (String × Schema)
  paths : List (String × List Operation)
deriving Repr

end RouteIR
