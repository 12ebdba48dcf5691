import RouteIR.Decoder
import RouteIR.Digest

namespace RouteIR

/-!
# Names of decoders

The name of a decoder follows from what it decodes: the kind of the primitive with a
word for each refinement, the element of a list, a digest of the set of literals.  A
number without a text leaves a decoder without a name.
-/

/-- The characters of a number in a name: the minus sign is spelled out, a plus sign is
left out and a point becomes an underscore. -/
def nameChars : Char → List Char
  | '-' => ['n', 'e', 'g']
  | '+' => []
  | '.' => ['_']
  | char => [char]

namespace Refinement

/-- The word of a refinement.  A pattern shows as the start of its digest. -/
def slug (refinement : Refinement) : String :=
  refinement.kind.slug ++ "_" ++
    match refinement with
    | .pattern text => Digest.shortHash 8 text
    | other => String.ofList (other.valueText.toList.flatMap nameChars)

end Refinement

namespace RefinementDecoder

def nameFor (scalar : Primitive) : String :=
  scalar.kind.text ++ "_" ++ "_".intercalate (scalar.refinements.map Refinement.slug)

/-- Whether all values in the name of a decoder have a text. -/
def isNameable (decoder : RefinementDecoder) : Bool :=
  decoder.primitive.refinements.all Refinement.isLegible

end RefinementDecoder

namespace ListDecoder

def nameFor (elementDecoder : Option String) (element : Primitive) : String :=
  "list_of_" ++ elementDecoder.getD element.kind.text

end ListDecoder

namespace EnumDecoder

/-- A literal with the name of its type. -/
def canonical (literal : Literal) : String := literal.typeName ++ ":" ++ literal.toTree.quoted

/-- The text that stands for a set of literals, whatever their order. -/
def canonicalText (values : List Literal) : String :=
  "\x1f".intercalate
    (((Literal.distinct values).map canonical).mergeSort fun left right => left ≤ right)

def nameFor (values : List Literal) : String :=
  "enum_" ++ Digest.shortHash 10 (canonicalText values)

/-- Whether all literals in the digest of a decoder have a text. -/
def isNameable (decoder : EnumDecoder) : Bool := decoder.values.all Literal.isLegible

end EnumDecoder

/-- Whether every decoder of a plan has a name.  That of a list is made of other names. -/
def DecoderPlan.isNameable (plan : DecoderPlan) : Bool :=
  plan.refinementDecoders.all RefinementDecoder.isNameable &&
    plan.enumDecoders.all EnumDecoder.isNameable

end RouteIR
