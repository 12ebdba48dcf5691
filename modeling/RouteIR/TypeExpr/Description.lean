import RouteIR.Json.Writer
import RouteIR.TypeExpr

namespace RouteIR

/-!
# Types in one line

The description of a type for tables and logs.  A primitive shows its format and its
refinements, an enumeration its literals as JSON in plain ASCII, a reference the name
of the component, a record the number of its fields.  A type is described when the values
that it shows all have a text.
-/

def Literal.describe : Literal → String
  | bool value => if value then "true" else "false"
  | int value => toString value
  | float value => String.ofList (Json.writeFloat value)
  | str text => Json.asciiString text

def Refinement.describe (refinement : Refinement) : String :=
  refinement.kind.text ++ "=" ++ refinement.valueText

def Primitive.describe (scalar : Primitive) : String :=
  let format := match scalar.format with
    | none | some "" => ""
    | some format => "(" ++ format ++ ")"
  let refinements :=
    if scalar.refinements.isEmpty then ""
    else "\x7b" ++ ", ".intercalate (scalar.refinements.map Refinement.describe) ++ "\x7d"
  scalar.kind.text ++ format ++ refinements

def TypeExpr.describe : TypeExpr → String
  | primitive scalar => scalar.describe
  | array element => "array<" ++ element.describe ++ ">"
  | enum values => "enum[" ++ ", ".intercalate (values.map Literal.describe) ++ "]"
  | ref name => name
  | record fields => "record(" ++ toString fields.length ++ " fields)"

/-- Whether the values that the description of a type shows have a text. -/
def TypeExpr.isDescribable : TypeExpr → Bool
  | primitive scalar => scalar.refinements.all Refinement.isLegible
  | array element => element.isDescribable
  | enum values => values.all Literal.isLegible
  | ref _ | record _ => true

end RouteIR
