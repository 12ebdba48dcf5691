import RouteIR.Proofs.Decoder.Demands

namespace RouteIR
namespace DecoderPlan

/-!
# Decoders that refer to others

A list decoder hands its elements to the decoder of a refined element, and knows it by name.
The name is that of a decoder in the same plan, since a plan never loses one.  Every other
name follows from what the decoder is for.
-/

/-- A list decoder refers to a check of its element when the element is refined, and to
nothing otherwise. -/
inductive LinkedTo (checks : List RefinementDecoder) (decoder : ListDecoder) : Prop
  | plain (unrefined : decoder.element.refinements = []) (unnamed : decoder.elementDecoder = none)
  | checked {check : RefinementDecoder} (member : check ∈ checks)
      (same : check.primitive.key = decoder.element.key)
      (named : decoder.elementDecoder = some check.name)

/-- A plan whose names are those that its decoders are made with. -/
structure Linked (plan : DecoderPlan) : Prop where
  refined : forall decoder, decoder ∈ plan.refinementDecoders ->
    decoder.primitive.refinements ≠ [] ∧
      decoder.name = RefinementDecoder.nameFor decoder.primitive
  lists : forall decoder, decoder ∈ plan.listDecoders ->
    decoder.name = ListDecoder.nameFor decoder.elementDecoder decoder.element ∧
      LinkedTo plan.refinementDecoders decoder
  enums : forall decoder, decoder ∈ plan.enumDecoders ->
    decoder.name = EnumDecoder.nameFor decoder.values

theorem LinkedTo.extend {checks more : List RefinementDecoder} {decoder : ListDecoder}
    (linked : LinkedTo checks decoder) (grows : checks <+: more) : LinkedTo more decoder := by
  cases linked with
  | plain unrefined unnamed => exact .plain unrefined unnamed
  | checked member same named => exact .checked (grows.subset member) same named

theorem linked_empty : empty.Linked := by
  constructor <;> intro decoder member <;> cases member

/-- The decoder that serves a refined primitive is in the plan. -/
theorem withRefined_spec (plan : DecoderPlan) (scalar : Primitive) :
    (plan.withRefined scalar).1 ∈ (plan.withRefined scalar).2.refinementDecoders ∧
      (plan.withRefined scalar).1.primitive.key = scalar.key := by
  unfold withRefined
  cases found : plan.refinementDecoders.find? (·.primitive.key = scalar.key) with
  | some decoder =>
      have same := Keyed.key_of_find? found
      exact ⟨List.mem_of_find?_eq_some found, same⟩
  | none =>
      refine ⟨?_, rfl⟩
      exact List.mem_append_right _ (List.mem_singleton.mpr rfl)

namespace Linked

variable {plan : DecoderPlan}

theorem withRefined (linked : plan.Linked) {scalar : Primitive}
    (refined : scalar.refinements ≠ []) : (plan.withRefined scalar).2.Linked := by
  have growth := plan.extends_withRefined scalar
  refine ⟨?_, ?_, ?_⟩
  · unfold DecoderPlan.withRefined
    split
    · exact linked.refined
    · intro decoder member
      rcases List.mem_append.mp member with old | new
      · exact linked.refined decoder old
      · rw [List.mem_singleton.mp new]
        exact ⟨refined, rfl⟩
  · rw [listDecoders_withRefined]
    intro decoder member
    rcases linked.lists decoder member with ⟨named, link⟩
    exact ⟨named, link.extend growth.refined⟩
  · rw [enumDecoders_withRefined]
    exact linked.enums

theorem withPrimitive (linked : plan.Linked) (scalar : Primitive) :
    (plan.withPrimitive scalar).Linked := by
  unfold DecoderPlan.withPrimitive
  split
  · exact linked
  · next refined => exact linked.withRefined (by simpa using refined)

theorem withEnum (linked : plan.Linked) (values : List Literal) :
    (plan.withEnum values).Linked := by
  unfold DecoderPlan.withEnum
  split
  · exact linked
  · refine ⟨linked.refined, linked.lists, ?_⟩
    intro decoder member
    rcases List.mem_append.mp member with old | new
    · exact linked.enums decoder old
    · rw [List.mem_singleton.mp new]

theorem withListOf (linked : plan.Linked) (element : Primitive) :
    (plan.withListOf element).Linked := by
  have planned := linked.withPrimitive element
  rw [withListOf_eq]
  split
  · exact linked
  · refine ⟨planned.refined, ?_, planned.enums⟩
    intro decoder member
    rcases List.mem_append.mp member with old | new
    · exact planned.lists decoder old
    · rw [List.mem_singleton.mp new]
      refine ⟨rfl, ?_⟩
      by_cases unrefined : element.refinements = []
      · exact .plain unrefined (if_pos unrefined)
      · rcases plan.withRefined_spec element with ⟨member, same⟩
        have checks : (plan.withPrimitive element).refinementDecoders =
            (plan.withRefined element).2.refinementDecoders := by
          rw [DecoderPlan.withPrimitive, if_neg (by simpa using unrefined)]
        rw [← checks] at member
        exact .checked member same (if_neg unrefined)

end Linked

theorem kept_linked : Kept Linked where
  withPrimitive _ scalar linked := linked.withPrimitive scalar
  withEnum _ values linked := linked.withEnum values
  withListOf _ element linked := linked.withListOf element

/-- Every plan of routes is linked. -/
theorem linked_of_ofRoutes {routes : Routes} {components : Components} {plan : DecoderPlan}
    (planned : ofRoutes routes components = .ok plan) : plan.Linked :=
  kept_linked.ofRoutes linked_empty planned

end DecoderPlan
end RouteIR
