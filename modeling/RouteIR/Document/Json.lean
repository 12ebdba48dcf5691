import RouteIR.Document
import RouteIR.Tree.Json

namespace RouteIR

/-!
# Documents as JSON

Every member of an object is written, in a fixed order; what is absent is null.  A document
has no JSON form where a constraint in it has none.
-/

namespace Json

def ofText (text : Option String) : Json := ofOption (text.map str)

def ofTexts (texts : List String) : Json := array (texts.map str)

end Json

def Literal.toJson : Literal → Json
  | bool value => .bool value
  | int value => .int value
  | float value => .ofFloat value
  | str text => .str text

/-- Members with values that may have no JSON form. -/
def Json.membersOf {α : Type} (write : α → Except Tree.JsonFault Json)
    (entries : List (String × α)) : Except Tree.JsonFault (List (String × Json)) :=
  entries.mapM fun entry => do return (entry.1, ← write entry.2)

namespace Schema

/-- A constraint as a pair. -/
def constraintToJson (constraint : String × Tree) : Except Tree.JsonFault Json :=
  constraint.2.toJson.map fun value => .array [.str constraint.1, value]

mutual

def toJson : Schema → Except Tree.JsonFault Json
  | object fields required =>
      (fieldsToJson fields).map fun fields =>
        .object [("shape", .str "object"), ("fields", .object fields),
          ("required", .ofTexts required)]
  | array element =>
      element.toJson.map fun element => .object [("shape", .str "array"), ("element", element)]
  | primitive kind format constraints =>
      (constraints.mapM constraintToJson).map fun constraints =>
        .object [("shape", .str "primitive"), ("kind", .str kind.text),
          ("format", .ofText format), ("constraints", .array constraints)]
  | enum values =>
      .ok (.object [("shape", .str "enum"), ("values", .array (values.map Literal.toJson))])
  | ref name => .ok (.object [("shape", .str "ref"), ("name", .str name)])

def fieldsToJson : List (String × Schema) → Except Tree.JsonFault (List (String × Json))
  | [] => .ok []
  | (name, schema) :: rest => do
      let field ← schema.toJson
      return (name, field) :: (← fieldsToJson rest)

end

def optionToJson : Option Schema → Except Tree.JsonFault Json
  | none => .ok .null
  | some schema => schema.toJson

end Schema

def DeclaredParameter.toJson (parameter : DeclaredParameter) : Except Tree.JsonFault Json := do
  let schema ← parameter.schema.toJson
  return .object [("name", .str parameter.name), ("location", .str parameter.location.text),
    ("required", .bool parameter.required), ("schema_def", schema)]

def Operation.toJson (operation : Operation) : Except Tree.JsonFault Json := do
  let parameters ← operation.parameters.mapM DeclaredParameter.toJson
  let requestBody ← Schema.optionToJson operation.requestBody
  let responses ← Json.membersOf Schema.optionToJson operation.responses
  return .object [("method", .str operation.method.text),
    ("operation_id", .ofText operation.operationId), ("parameters", .array parameters),
    ("request_body", requestBody), ("responses", .object responses)]

def Document.toJson (document : Document) : Except Tree.JsonFault Json := do
  let components ← Json.membersOf Schema.toJson document.components
  let paths ← Json.membersOf (fun operations => do
    return .object [("operations", .array (← operations.mapM Operation.toJson))]) document.paths
  return .object [("components", .object components), ("paths", .object paths)]

end RouteIR
