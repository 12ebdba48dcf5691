import RouteIR.Document
import RouteIR.TypeExpr.Resolution

namespace RouteIR

/-!
# Routes

A route item is one method of one path template, with the types that it needs.  The
items of a template stay together, in the order in which the methods are declared.
-/

/-- A parameter with its type.  A query string carries a list by repeating its key, so a
query parameter whose type resolves to an array of primitives is marked. -/
structure Parameter where
  name : String
  location : ParameterLocation
  required : Bool
  type : TypeExpr
  listValued : Bool
deriving Repr

structure RouteItem where
  method : Method
  template : String
  pathParameters : List String
  operationId : Option String
  parameters : List Parameter
  requestBody : Option TypeExpr
  /-- The type of each response that carries one, by status. -/
  responses : List (String × Option TypeExpr)
deriving Repr

/-- All route items of one path template. -/
structure PathRoutes where
  template : String
  items : List RouteItem
deriving Repr

namespace RouteItem

/-- The name of a route for readers. -/
def signature (item : RouteItem) : String := item.method.upperText ++ " " ++ item.template

/-- The types of a route in the order parameters, body, responses. -/
def types (item : RouteItem) : List TypeExpr :=
  item.parameters.map (·.type) ++ item.requestBody.toList ++ item.responses.filterMap (·.2)

end RouteItem

/-- Templates with their routes, in document order. -/
abbrev Routes := List (String × PathRoutes)

/-- Every route item, template by template. -/
def Routes.items (routes : Routes) : List RouteItem := routes.flatMap fun entry => entry.2.items

end RouteIR
