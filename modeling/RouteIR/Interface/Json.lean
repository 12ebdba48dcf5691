import RouteIR.Document.Json
import RouteIR.Json.Writer
import RouteIR.Interface

namespace RouteIR

/-!
# The intermediate representation as JSON

The form in which renderers outside this library receive an interface.  Every member
of an object is written, in a fixed order; what is absent is null.
-/

def Refinement.toJson (refinement : Refinement) : Json :=
  .object [("kind", .str refinement.kind.text),
    ("value", match refinement with
      | .minLength value | .maxLength value => .int value
      | .minimum value | .maximum value => .ofNumber value
      | .pattern text => .str text)]

def Primitive.toJson (scalar : Primitive) : Json :=
  .object [("shape", .str "primitive"), ("kind", .str scalar.kind.text),
    ("format", .ofText scalar.format),
    ("refinements", .array (scalar.refinements.map Refinement.toJson))]

namespace TypeExpr

mutual

def toJson : TypeExpr → Json
  | primitive scalar => scalar.toJson
  | array element => .object [("shape", .str "array"), ("element", element.toJson)]
  | enum values =>
      .object [("shape", .str "enum"), ("values", .array (values.map Literal.toJson))]
  | ref name => .object [("shape", .str "ref"), ("name", .str name)]
  | record fields =>
      .object [("shape", .str "record"), ("fields", .array (fieldsToJson fields))]

def fieldsToJson : List (Field TypeExpr) → List Json
  | [] => []
  | ⟨name, type, required⟩ :: rest =>
      .object [("name", .str name), ("type", type.toJson), ("required", .bool required)] ::
        fieldsToJson rest

end

def optionToJson (type : Option TypeExpr) : Json := .ofOption (type.map toJson)

end TypeExpr

def Parameter.toJson (parameter : Parameter) : Json :=
  .object [("name", .str parameter.name), ("location", .str parameter.location.text),
    ("required", .bool parameter.required), ("type", parameter.type.toJson),
    ("list_valued", .bool parameter.listValued)]

def RouteItem.toJson (item : RouteItem) : Json :=
  .object [("method", .str item.method.text), ("path_template", .str item.template),
    ("path_parameters", .ofTexts item.pathParameters), ("operation_id", .ofText item.operationId),
    ("parameters", .array (item.parameters.map Parameter.toJson)),
    ("request_body", TypeExpr.optionToJson item.requestBody),
    ("responses",
      .object (item.responses.map fun entry => (entry.1, TypeExpr.optionToJson entry.2)))]

def PathRoutes.toJson (routes : PathRoutes) : Json :=
  .object [("path_template", .str routes.template),
    ("items", .array (routes.items.map RouteItem.toJson))]

def RefinementDecoder.toJson (decoder : RefinementDecoder) : Json :=
  .object [("name", .str decoder.name), ("primitive", decoder.primitive.toJson)]

def ListDecoder.toJson (decoder : ListDecoder) : Json :=
  .object [("name", .str decoder.name),
    ("array", (TypeExpr.array (.primitive decoder.element)).toJson),
    ("element_decoder", .ofText decoder.elementDecoder)]

def EnumDecoder.toJson (decoder : EnumDecoder) : Json :=
  .object [("name", .str decoder.name), ("values", .array (decoder.values.map Literal.toJson))]

def DecoderPlan.toJson (plan : DecoderPlan) : Json :=
  .object [
    ("refinement_decoders", .array (plan.refinementDecoders.map RefinementDecoder.toJson)),
    ("list_decoders", .array (plan.listDecoders.map ListDecoder.toJson)),
    ("enum_decoders", .array (plan.enumDecoders.map EnumDecoder.toJson))]

namespace Interface

def toJson (interface : Interface) : Json :=
  .object [
    ("components", .object (interface.components.map fun entry => (entry.1, entry.2.toJson))),
    ("paths", .object (interface.routes.map fun entry => (entry.1, entry.2.toJson))),
    ("decoders", interface.decoders.toJson)]

/-- The text of an interface, with a final newline. -/
def render (interface : Interface) : String := Json.render interface.toJson ++ "\n"

/-- What is written of an interface: its text, where all integers in it have one. -/
def dump? (interface : Interface) : Option String :=
  (Json.dump? interface.toJson).map (· ++ "\n")

end Interface
end RouteIR
