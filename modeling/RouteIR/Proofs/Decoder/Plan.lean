import Mathlib.Data.Finset.Basic
import RouteIR.Decoder.Survey
import RouteIR.Proofs.Keyed

namespace RouteIR

/-!
# What the operations of a plan do to its keys

A plan is known by three lists of keys, one for each kind of decoder.  Each operation
adds a key at the end of its list, unless the list has it, and leaves the decoders made
before as they are.  So keys stay distinct, and a plan only grows at the ends.
-/

namespace Keyed

variable {α : Type} [DecidableEq α]

/-- A list with a key at its end, unless it has the key already. -/
def appendNew (keys : List α) (key : α) : List α := if key ∈ keys then keys else keys ++ [key]

theorem mem_appendNew_iff (keys : List α) (key other : α) :
    other ∈ appendNew keys key ↔ other ∈ keys ∨ other = key := by
  unfold appendNew
  by_cases member : key ∈ keys
  · rw [if_pos member]
    constructor
    · exact Or.inl
    · rintro (old | rfl)
      · exact old
      · exact member
  · rw [if_neg member]
    simp

theorem nodup_appendNew {keys : List α} (distinct : keys.Nodup) (key : α) :
    (appendNew keys key).Nodup := by
  unfold appendNew
  by_cases member : key ∈ keys
  · rwa [if_pos member]
  · rw [if_neg member]
    refine List.Nodup.append distinct (List.nodup_singleton key) ?_
    exact List.disjoint_singleton.mpr member

end Keyed

namespace Literal

/-- The literals of an enumeration as a set: each counts by its type and its value. -/
def identities (values : List Literal) : Finset Identity := (values.map identity).toFinset

theorem sameSet_iff (left right : List Literal) :
    sameSet left right = true ↔ identities left = identities right := by
  have covered (some others : List Literal) :
      some.all (fun literal => others.any (·.identity = literal.identity)) = true ↔
        identities some ⊆ identities others := by
    simp [identities, Finset.subset_iff]
  rw [sameSet, Bool.and_eq_true, covered, covered]
  exact ⟨fun both => both.1.antisymm both.2, fun same => ⟨same.subset, same.superset⟩⟩

end Literal

namespace DecoderPlan

/-- What the refinement decoders of a plan check. -/
def refinedKeys (plan : DecoderPlan) : List Primitive.Key :=
  plan.refinementDecoders.map (·.primitive.key)

/-- The elements of the lists that a plan collects. -/
def listKeys (plan : DecoderPlan) : List Primitive.Key := plan.listDecoders.map (·.element.key)

/-- The sets of literals that a plan knows. -/
def literalSets (plan : DecoderPlan) : List (Finset Literal.Identity) :=
  plan.enumDecoders.map fun decoder => Literal.identities decoder.values

/-! ## Keys -/

theorem refinementDecoders_withRefined (plan : DecoderPlan) (scalar : Primitive) :
    (plan.withRefined scalar).2.refinementDecoders =
      if scalar.key ∈ plan.refinedKeys then plan.refinementDecoders
      else plan.refinementDecoders ++ [⟨RefinementDecoder.nameFor scalar, scalar.withoutFormat⟩] := by
  unfold withRefined
  cases found : plan.refinementDecoders.find? (·.primitive.key = scalar.key) with
  | some decoder =>
      have member : scalar.key ∈ plan.refinedKeys := by
        rw [← Keyed.key_of_find? found]
        exact List.mem_map_of_mem (List.mem_of_find?_eq_some found)
      rw [if_pos member]
  | none =>
      have fresh : scalar.key ∉ plan.refinedKeys := Keyed.find?_key_eq_none_iff.mp found
      rw [if_neg fresh]

theorem refinedKeys_withRefined (plan : DecoderPlan) (scalar : Primitive) :
    (plan.withRefined scalar).2.refinedKeys = Keyed.appendNew plan.refinedKeys scalar.key := by
  rw [refinedKeys, refinementDecoders_withRefined, Keyed.appendNew]
  split
  · rfl
  · rw [List.map_append]
    rfl

theorem refinedKeys_withPrimitive (plan : DecoderPlan) (scalar : Primitive) :
    (plan.withPrimitive scalar).refinedKeys =
      if scalar.refinements = [] then plan.refinedKeys
      else Keyed.appendNew plan.refinedKeys scalar.key := by
  rw [withPrimitive]
  simp only [List.isEmpty_iff]
  split
  · rfl
  · exact refinedKeys_withRefined plan scalar

theorem enumDecoders_withEnum (plan : DecoderPlan) (values : List Literal) :
    (plan.withEnum values).enumDecoders =
      if Literal.identities values ∈ plan.literalSets then plan.enumDecoders
      else plan.enumDecoders ++ [⟨EnumDecoder.nameFor values, values⟩] := by
  have known : plan.enumDecoders.any (Literal.sameSet ·.values values) = true ↔
      Literal.identities values ∈ plan.literalSets := by
    simp only [List.any_eq_true, Literal.sameSet_iff, literalSets, List.mem_map]
  rw [withEnum]
  simp only [known]
  split <;> rfl

theorem refinementDecoders_withEnum (plan : DecoderPlan) (values : List Literal) :
    (plan.withEnum values).refinementDecoders = plan.refinementDecoders := by
  rw [withEnum]
  split <;> rfl

theorem listDecoders_withEnum (plan : DecoderPlan) (values : List Literal) :
    (plan.withEnum values).listDecoders = plan.listDecoders := by
  rw [withEnum]
  split <;> rfl

theorem literalSets_withEnum (plan : DecoderPlan) (values : List Literal) :
    (plan.withEnum values).literalSets =
      Keyed.appendNew plan.literalSets (Literal.identities values) := by
  rw [literalSets, enumDecoders_withEnum, Keyed.appendNew]
  split
  · rfl
  · rw [List.map_append]
    rfl

/-- The name by which the decoder of a list refers to the decoder of its element. -/
def elementDecoderOf (plan : DecoderPlan) (element : Primitive) : Option String :=
  if element.refinements = [] then none else some (plan.withRefined element).1.name

/-- A list decoder is made together with the decoder of its element. -/
theorem withListOf_eq (plan : DecoderPlan) (element : Primitive) :
    plan.withListOf element =
      if element.key ∈ plan.listKeys then plan
      else
        let name := plan.elementDecoderOf element
        ⟨(plan.withPrimitive element).refinementDecoders,
          (plan.withPrimitive element).listDecoders ++
            [⟨ListDecoder.nameFor name element, element.withoutFormat, name⟩],
          (plan.withPrimitive element).enumDecoders⟩ := by
  have known : plan.listDecoders.any (·.element.key = element.key) = true ↔
      element.key ∈ plan.listKeys := by
    simp [listKeys]
  rw [withListOf]
  simp only [known, elementDecoderOf, withPrimitive, List.isEmpty_iff]
  by_cases plain : element.refinements = []
  · simp only [if_pos plain]
  · simp only [if_neg plain]

theorem listDecoders_withRefined (plan : DecoderPlan) (scalar : Primitive) :
    (plan.withRefined scalar).2.listDecoders = plan.listDecoders := by
  unfold withRefined
  split <;> rfl

theorem enumDecoders_withRefined (plan : DecoderPlan) (scalar : Primitive) :
    (plan.withRefined scalar).2.enumDecoders = plan.enumDecoders := by
  unfold withRefined
  split <;> rfl

theorem listDecoders_withPrimitive (plan : DecoderPlan) (scalar : Primitive) :
    (plan.withPrimitive scalar).listDecoders = plan.listDecoders := by
  unfold withPrimitive
  split
  · rfl
  · exact plan.listDecoders_withRefined scalar

theorem enumDecoders_withPrimitive (plan : DecoderPlan) (scalar : Primitive) :
    (plan.withPrimitive scalar).enumDecoders = plan.enumDecoders := by
  unfold withPrimitive
  split
  · rfl
  · exact plan.enumDecoders_withRefined scalar

theorem listKeys_withListOf (plan : DecoderPlan) (element : Primitive) :
    (plan.withListOf element).listKeys = Keyed.appendNew plan.listKeys element.key := by
  rw [withListOf_eq, Keyed.appendNew]
  split
  · rfl
  · rw [listKeys, List.map_append, listDecoders_withPrimitive]
    rfl

theorem refinedKeys_withListOf (plan : DecoderPlan) (element : Primitive) :
    (plan.withListOf element).refinedKeys =
      if element.key ∈ plan.listKeys then plan.refinedKeys
      else (plan.withPrimitive element).refinedKeys := by
  rw [withListOf_eq]
  split <;> rfl

theorem literalSets_withListOf (plan : DecoderPlan) (element : Primitive) :
    (plan.withListOf element).literalSets = plan.literalSets := by
  rw [withListOf_eq]
  split
  · rfl
  · rw [literalSets, enumDecoders_withPrimitive]
    rfl

/-! ## Growth -/

/-- A plan grows at the ends: the decoders made before stay where and what they are. -/
structure Extends (larger smaller : DecoderPlan) : Prop where
  refined : smaller.refinementDecoders <+: larger.refinementDecoders
  lists : smaller.listDecoders <+: larger.listDecoders
  enums : smaller.enumDecoders <+: larger.enumDecoders

namespace Extends

theorem refl (plan : DecoderPlan) : plan.Extends plan :=
  ⟨List.prefix_refl _, List.prefix_refl _, List.prefix_refl _⟩

theorem trans {last middle first : DecoderPlan} (later : last.Extends middle)
    (earlier : middle.Extends first) : last.Extends first :=
  ⟨earlier.refined.trans later.refined, earlier.lists.trans later.lists,
    earlier.enums.trans later.enums⟩

variable {larger smaller : DecoderPlan}

theorem refinedKeys (growth : larger.Extends smaller) {key : Primitive.Key}
    (member : key ∈ smaller.refinedKeys) : key ∈ larger.refinedKeys :=
  (growth.refined.map _).subset member

theorem literalSets (growth : larger.Extends smaller) {pairs : Finset Literal.Identity}
    (member : pairs ∈ smaller.literalSets) : pairs ∈ larger.literalSets :=
  (growth.enums.map _).subset member

theorem listKeys (growth : larger.Extends smaller) {key : Primitive.Key}
    (member : key ∈ smaller.listKeys) : key ∈ larger.listKeys :=
  (growth.lists.map _).subset member

end Extends

theorem extends_withRefined (plan : DecoderPlan) (scalar : Primitive) :
    (plan.withRefined scalar).2.Extends plan := by
  unfold withRefined
  split
  · exact .refl plan
  · exact ⟨List.prefix_append _ _, List.prefix_refl _, List.prefix_refl _⟩

theorem extends_withPrimitive (plan : DecoderPlan) (scalar : Primitive) :
    (plan.withPrimitive scalar).Extends plan := by
  unfold withPrimitive
  split
  · exact .refl plan
  · exact plan.extends_withRefined scalar

theorem extends_withEnum (plan : DecoderPlan) (values : List Literal) :
    (plan.withEnum values).Extends plan := by
  unfold withEnum
  split
  · exact .refl plan
  · exact ⟨List.prefix_refl _, List.prefix_refl _, List.prefix_append _ _⟩

theorem extends_withListOf (plan : DecoderPlan) (element : Primitive) :
    (plan.withListOf element).Extends plan := by
  rw [withListOf_eq]
  have growth := plan.extends_withPrimitive element
  split
  · exact .refl plan
  · exact ⟨growth.refined, growth.lists.trans (List.prefix_append _ _), growth.enums⟩

/-! ## What is known already -/

theorem ext_decoders {left right : DecoderPlan}
    (refined : left.refinementDecoders = right.refinementDecoders)
    (lists : left.listDecoders = right.listDecoders)
    (enums : left.enumDecoders = right.enumDecoders) : left = right := by
  cases left
  cases right
  cases refined
  cases lists
  cases enums
  rfl

/-- A primitive that needs no decoder, or has one, leaves the plan as it is. -/
theorem withPrimitive_of_planned {plan : DecoderPlan} {scalar : Primitive}
    (planned : scalar.refinements ≠ [] -> scalar.key ∈ plan.refinedKeys) :
    plan.withPrimitive scalar = plan := by
  refine ext_decoders ?_ (plan.listDecoders_withPrimitive scalar)
    (plan.enumDecoders_withPrimitive scalar)
  rw [withPrimitive]
  split
  · rfl
  · next refined =>
      rw [refinementDecoders_withRefined, if_pos (planned (by simpa using refined))]

theorem withEnum_of_planned {plan : DecoderPlan} {values : List Literal}
    (planned : Literal.identities values ∈ plan.literalSets) : plan.withEnum values = plan := by
  refine ext_decoders (plan.refinementDecoders_withEnum values)
    (plan.listDecoders_withEnum values) ?_
  rw [enumDecoders_withEnum, if_pos planned]

/-! ## Distinctness -/

/-- A property of plans that every operation on them keeps. -/
structure Kept (motive : DecoderPlan -> Prop) : Prop where
  withPrimitive : forall plan scalar, motive plan -> motive (plan.withPrimitive scalar)
  withEnum : forall plan values, motive plan -> motive (plan.withEnum values)
  withListOf : forall plan element, motive plan -> motive (plan.withListOf element)

/-- No two decoders of one kind serve the same purpose. -/
structure Distinct (plan : DecoderPlan) : Prop where
  refined : plan.refinedKeys.Nodup
  lists : plan.listKeys.Nodup
  enums : plan.literalSets.Nodup

theorem distinct_empty : empty.Distinct := ⟨List.nodup_nil, List.nodup_nil, List.nodup_nil⟩

namespace Distinct

variable {plan : DecoderPlan}

theorem withPrimitive (distinct : plan.Distinct) (scalar : Primitive) :
    (plan.withPrimitive scalar).Distinct := by
  refine ⟨?_, ?_, ?_⟩
  · rw [refinedKeys_withPrimitive]
    split
    · exact distinct.refined
    · exact Keyed.nodup_appendNew distinct.refined _
  · rw [listKeys, listDecoders_withPrimitive]
    exact distinct.lists
  · rw [literalSets, enumDecoders_withPrimitive]
    exact distinct.enums

theorem withEnum (distinct : plan.Distinct) (values : List Literal) :
    (plan.withEnum values).Distinct := by
  refine ⟨?_, ?_, ?_⟩
  · rw [refinedKeys, refinementDecoders_withEnum]
    exact distinct.refined
  · rw [listKeys, listDecoders_withEnum]
    exact distinct.lists
  · rw [literalSets_withEnum]
    exact Keyed.nodup_appendNew distinct.enums _

theorem withListOf (distinct : plan.Distinct) (element : Primitive) :
    (plan.withListOf element).Distinct := by
  refine ⟨?_, ?_, ?_⟩
  · rw [refinedKeys_withListOf]
    split
    · exact distinct.refined
    · exact (distinct.withPrimitive element).refined
  · rw [listKeys_withListOf]
    exact Keyed.nodup_appendNew distinct.lists _
  · rw [literalSets_withListOf]
    exact distinct.enums

end Distinct

theorem kept_distinct : Kept Distinct where
  withPrimitive _ scalar distinct := distinct.withPrimitive scalar
  withEnum _ values distinct := distinct.withEnum values
  withListOf _ element distinct := distinct.withListOf element

/-! ## Purpose -/

/-- Every decoder of a plan was made for something that is wanted: a primitive, the
element of a list, or a list of literals. -/
structure Serves (plan : DecoderPlan) (scalars elements : Primitive -> Prop)
    (literals : List Literal -> Prop) : Prop where
  refined : forall decoder, decoder ∈ plan.refinementDecoders -> Exists fun scalar =>
    scalars scalar ∧ scalar.refinements ≠ [] ∧
      decoder = ⟨RefinementDecoder.nameFor scalar, scalar.withoutFormat⟩
  lists : forall decoder, decoder ∈ plan.listDecoders -> Exists fun element =>
    elements element ∧ decoder.element = element.withoutFormat
  enums : forall decoder, decoder ∈ plan.enumDecoders -> Exists fun values =>
    literals values ∧ decoder = ⟨EnumDecoder.nameFor values, values⟩

variable {scalars elements : Primitive -> Prop} {literals : List Literal -> Prop}

theorem serves_empty : empty.Serves scalars elements literals := by
  constructor <;> intro decoder member <;> cases member

namespace Serves

variable {plan : DecoderPlan}

theorem withRefined (serves : plan.Serves scalars elements literals) {scalar : Primitive}
    (wanted : scalars scalar) (refined : scalar.refinements ≠ []) :
    (plan.withRefined scalar).2.Serves scalars elements literals := by
  unfold DecoderPlan.withRefined
  split
  · exact serves
  · refine ⟨?_, serves.lists, serves.enums⟩
    intro decoder member
    rcases List.mem_append.mp member with old | new
    · exact serves.refined decoder old
    · exact ⟨scalar, wanted, refined, List.mem_singleton.mp new⟩

theorem withPrimitive (serves : plan.Serves scalars elements literals) {scalar : Primitive}
    (wanted : scalars scalar) : (plan.withPrimitive scalar).Serves scalars elements literals := by
  unfold DecoderPlan.withPrimitive
  split
  · exact serves
  · next refined => exact serves.withRefined wanted (by simpa using refined)

theorem withEnum (serves : plan.Serves scalars elements literals) {values : List Literal}
    (wanted : literals values) : (plan.withEnum values).Serves scalars elements literals := by
  unfold DecoderPlan.withEnum
  split
  · exact serves
  · refine ⟨serves.refined, serves.lists, ?_⟩
    intro decoder member
    rcases List.mem_append.mp member with old | new
    · exact serves.enums decoder old
    · exact ⟨values, wanted, List.mem_singleton.mp new⟩

theorem withListOf (serves : plan.Serves scalars elements literals) {element : Primitive}
    (wanted : elements element) (scalarWanted : scalars element) :
    (plan.withListOf element).Serves scalars elements literals := by
  have planned := serves.withPrimitive scalarWanted
  rw [withListOf_eq]
  split
  · exact serves
  · refine ⟨planned.refined, ?_, planned.enums⟩
    intro decoder member
    rcases List.mem_append.mp member with old | new
    · exact planned.lists decoder old
    · exact ⟨element, wanted, by rw [List.mem_singleton.mp new]⟩

end Serves
end DecoderPlan
end RouteIR
