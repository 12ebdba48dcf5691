import RouteIR.Interface
import RouteIR.TypeExpr.Description

namespace RouteIR

/-!
# Tables of an interface

What an interface holds, one row an item: its components and its routes in document
order, and its decoders in the order of the plan.  An absent cell shows as a dash.
-/

structure Table where
  headers : List String
  rows : List (List String)
deriving DecidableEq, Repr

/-- A view of an interface: a table, with the types that it describes. -/
structure View where
  table : Interface → Table
  described : Interface → List TypeExpr
  /-- What is said where the table has no rows. -/
  absence : String

namespace Inspection

def orDash (text : String) : String := if text.isEmpty then "-" else text

/-- A field with its type; a question mark follows the name of an optional one. -/
def fieldText (field : Field TypeExpr) : String :=
  field.name ++ (if field.required then "" else "?") ++ ": " ++ field.type.describe

/-- The detail of a type: the fields of a record, the description of any other. -/
def detail : TypeExpr → String
  | .record fields => ", ".intercalate (fields.map fieldText)
  | type => type.describe

/-- The types that the detail of a type describes. -/
def detailed : TypeExpr → List TypeExpr
  | .record fields => fields.map (·.type)
  | type => [type]

def componentRow (entry : String × TypeExpr) : List String :=
  [entry.1, entry.2.shape.text, orDash (detail entry.2)]

def components (interface : Interface) : Table :=
  ⟨["Component", "Shape", "Type"], interface.components.map componentRow⟩

def componentView : View where
  table := components
  described interface := interface.components.flatMap (detailed ·.2)
  absence := "No components defined in this document."

def parameterText (parameter : Parameter) : String :=
  parameter.location.text ++ ":" ++ parameter.name ++ if parameter.listValued then "[]" else ""

def bodyText : Option TypeExpr → String
  | none => "-"
  | some type => type.describe

def routeRow (item : RouteItem) : List String :=
  [item.signature, orDash (item.operationId.getD ""),
    orDash (", ".intercalate (item.parameters.map parameterText)), bodyText item.requestBody,
    orDash (", ".intercalate (Keyed.keys item.responses))]

def routes (interface : Interface) : Table :=
  ⟨["Route", "Operation", "Parameters", "Body", "Responses"],
    interface.routes.items.map routeRow⟩

def routeView : View where
  table := routes
  described interface := interface.routes.items.flatMap (·.requestBody.toList)
  absence := "No routes defined in this document."

def refinementRow (decoder : RefinementDecoder) : List String :=
  ["refinement", decoder.name, decoder.primitive.describe]

def listRow (decoder : ListDecoder) : List String :=
  let element := match decoder.elementDecoder with
    | none | some "" => ""
    | some name => " via " ++ name
  ["list", decoder.name, (TypeExpr.array (.primitive decoder.element)).describe ++ element]

def enumRow (decoder : EnumDecoder) : List String :=
  ["enum", decoder.name, ", ".intercalate (decoder.values.map fun value => value.toTree.display)]

def decoders (interface : Interface) : Table :=
  ⟨["Kind", "Decoder", "Decodes"],
    interface.decoders.refinementDecoders.map refinementRow ++
      interface.decoders.listDecoders.map listRow ++
      interface.decoders.enumDecoders.map enumRow⟩

def decoderView : View where
  table := decoders
  described interface :=
    interface.decoders.refinementDecoders.map (.primitive ·.primitive) ++
      interface.decoders.listDecoders.map (.array <| .primitive ·.element) ++
      interface.decoders.enumDecoders.map (.enum ·.values)
  absence := "No decoders needed for this document."

end Inspection
end RouteIR
