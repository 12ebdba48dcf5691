import RouteIR.TypeExpr

namespace RouteIR

/-!
# Decoders

The helpers that a renderer has to emit next to its routes: one for each distinct
refined primitive, one for each distinct array of primitives that a query carries,
and one for each distinct set of literals.  A plan holds each once, in the order of
first encounter.
-/

/-- Checks a refined primitive.  The format plays no part. -/
structure RefinementDecoder where
  name : String
  primitive : Primitive
deriving DecidableEq, Repr

/-- Collects a repeated query key into a list. -/
structure ListDecoder where
  name : String
  element : Primitive
  /-- The decoder of a refined element. -/
  elementDecoder : Option String
deriving DecidableEq, Repr

structure EnumDecoder where
  name : String
  values : List Literal
deriving DecidableEq, Repr

structure DecoderPlan where
  refinementDecoders : List RefinementDecoder
  listDecoders : List ListDecoder
  enumDecoders : List EnumDecoder
deriving DecidableEq, Repr

namespace DecoderPlan

def empty : DecoderPlan := ⟨[], [], []⟩

/-- The names of all decoders of a plan. -/
def names (plan : DecoderPlan) : List String :=
  plan.refinementDecoders.map (·.name) ++ plan.listDecoders.map (·.name) ++
    plan.enumDecoders.map (·.name)

end DecoderPlan

/-! ## What makes two decoders one -/

namespace Primitive

/-- What two primitives share when one decoder serves both. -/
abbrev Key := PrimitiveKind × List Refinement.Identity

def key (scalar : Primitive) : Key := (scalar.kind, scalar.refinements.map Refinement.identity)

/-- The primitive that a decoder is made for. -/
def withoutFormat (scalar : Primitive) : Primitive := ⟨scalar.kind, none, scalar.refinements⟩

end Primitive

namespace Literal

/-- Whether two enumerations have the same literals, in whatever order and number. -/
def sameSet (left right : List Literal) : Bool :=
  left.all (fun literal => right.any (·.identity = literal.identity)) &&
    right.all (fun literal => left.any (·.identity = literal.identity))

end Literal
end RouteIR
