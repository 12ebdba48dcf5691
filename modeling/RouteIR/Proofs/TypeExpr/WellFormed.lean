import RouteIR.Proofs.Refinement.NormalForm
import RouteIR.Proofs.Schema.Reading
import RouteIR.Proofs.TypeExpr.Lowering

namespace RouteIR

/-!
# Well-formed types

A well-formed type has records only as the whole of a component.  Below that, its
primitives have refinements in canonical order that apply to their kinds, and its
enumerations have literals, none twice.  Lowering makes nothing else of schemas that were
read, and what a well-formed type leads to is well-formed again.
-/

namespace Primitive

/-- The refinements of a primitive stand in canonical order, agree with one another, and
apply to its kind. -/
structure WellFormed (scalar : Primitive) : Prop where
  canonical : Refinement.Canonical scalar.refinements
  textOnly : forall refinement, refinement ∈ scalar.refinements ->
    refinement.kind = .minLength ∨ refinement.kind = .maxLength ∨ refinement.kind = .pattern ->
    scalar.kind = .string
  numbersOnly : forall refinement, refinement ∈ scalar.refinements ->
    refinement.kind = .minimum ∨ refinement.kind = .maximum ->
    scalar.kind = .integer ∨ scalar.kind = .number
  booleanPlain : scalar.kind = .boolean -> scalar.refinements = []

theorem wellFormed_of_applies {scalar : Primitive}
    (canonical : Refinement.Canonical scalar.refinements)
    (applies : forall refinement, refinement ∈ scalar.refinements ->
      refinement.kind.appliesTo scalar.kind = true) : scalar.WellFormed := by
  refine ⟨canonical, ?_, ?_, ?_⟩
  · intro refinement member text
    have applicable := applies refinement member
    rcases text with kind | kind | kind <;> rw [kind] at applicable <;>
      exact of_decide_eq_true applicable
  · intro refinement member number
    have applicable := applies refinement member
    rcases number with kind | kind <;> rw [kind] at applicable <;>
      simpa [RefinementKind.appliesTo] using applicable
  · intro boolean
    apply List.eq_nil_iff_forall_not_mem.mpr
    intro refinement member
    have applicable := applies refinement member
    rw [boolean] at applicable
    cases kind : refinement.kind <;> rw [kind] at applicable <;> cases applicable

/-- Constraints that are accepted give a well-formed primitive. -/
theorem wellFormed_of_constraints {kind : PrimitiveKind} {format : Option String}
    {constraints : List (String × Tree)} {scalar : Primitive}
    (built : ofConstraints kind format constraints = .ok scalar) : scalar.WellFormed := by
  rw [ofConstraints] at built
  rcases Outcome.bind_eq_ok_iff.mp built with ⟨refinements, normal, built⟩
  split at built
  · cases built
  · next none =>
      cases built
      refine wellFormed_of_applies (Refinement.canonical_of_normalForm normal) ?_
      intro refinement member
      simpa using List.find?_eq_none.mp none refinement member

end Primitive

namespace Literal

/-- The literals of an enumeration: there are some, and no two of them have both type and
value in common. -/
structure WellFormed (values : List Literal) : Prop where
  filled : values ≠ []
  distinct : (values.map identity).Nodup

end Literal

namespace TypeExpr

/-- A well-formed type that has no record in it. -/
inductive Inline : TypeExpr -> Prop
  | primitive {scalar : Primitive} (wellFormed : scalar.WellFormed) : Inline (.primitive scalar)
  | array {element : TypeExpr} (part : Inline element) : Inline (.array element)
  | enum {values : List Literal} (wellFormed : Literal.WellFormed values) : Inline (.enum values)
  | ref {name : String} : Inline (.ref name)

/-- A well-formed type of a component: a record whose fields have no record in them, or a
type that has none at all. -/
inductive WellFormed : TypeExpr -> Prop
  | record {fields : List (Field TypeExpr)}
      (parts : forall field, field ∈ fields -> Inline field.type) : WellFormed (.record fields)
  | inline {type : TypeExpr} (inline : Inline type) : WellFormed type

theorem WellFormed.primitive {scalar : Primitive} (wellFormed : WellFormed (.primitive scalar)) :
    scalar.WellFormed := by
  cases wellFormed with
  | inline inline =>
      cases inline with
      | primitive wellFormed => exact wellFormed

theorem WellFormed.enum {values : List Literal} (wellFormed : WellFormed (.enum values)) :
    Literal.WellFormed values := by
  cases wellFormed with
  | inline inline =>
      cases inline with
      | enum wellFormed => exact wellFormed

/-- Records are made at the top of components only. -/
theorem wellFormed_cases (components : List String) :
    LoweringCases components fun position schema type => schema.DistinctEnums ->
      type.WellFormed ∧ (position ≠ .component -> type.Inline) where
  record properties required fields fieldsOf := by
    intro distinct
    cases distinct with
    | object parts =>
        refine ⟨.record ?_, fun nested => absurd rfl nested⟩
        intro field member
        rcases Outcome.exists_left_of_forall₂ fieldsOf member with ⟨property, declared, fieldOf⟩
        exact (fieldOf.holds (parts property declared)).2 (by decide)
  array position element type ih := by
    intro distinct
    cases distinct with
    | array part =>
        have inline : Inline (.array type) := .array ((ih part).2 (by cases position <;> decide))
        exact ⟨.inline inline, fun _ => inline⟩
  primitive position kind format constraints scalar built := by
    intro _
    have inline : Inline (.primitive scalar) :=
      .primitive (Primitive.wellFormed_of_constraints built)
    exact ⟨.inline inline, fun _ => inline⟩
  enum position values filled := by
    intro distinct
    cases distinct with
    | enum distinct =>
        have inline : Inline (.enum values) := .enum ⟨filled, distinct⟩
        exact ⟨.inline inline, fun _ => inline⟩
  ref position name _ := by
    intro _
    exact ⟨.inline .ref, fun _ => .ref⟩

/-- A schema that was read is lowered to a well-formed type. -/
theorem wellFormed_of_lowered {components : List String} {position : Position} {node : Tree}
    {schema : Schema} {type : TypeExpr} (readOk : Schema.read node = .ok schema)
    (lowered : ofSchema components position schema = .ok type) :
    type.WellFormed ∧ (position ≠ .component -> type.Inline) :=
  (wellFormed_cases components).of_lowered position schema type lowered
    (Schema.distinctEnums_of_read readOk)

end TypeExpr

namespace Components

/-- Every component is well-formed. -/
def WellFormed (components : Components) : Prop :=
  forall component, component ∈ components -> component.2.WellFormed

theorem WellFormed.hereditary {components : Components} (wellFormed : components.WellFormed) :
    components.Hereditary TypeExpr.WellFormed where
  element element holds := by
    cases holds with
    | inline inline =>
        cases inline with
        | array part => exact .inline part
  field fields field holds member := by
    cases holds with
    | record parts => exact .inline (parts field member)
    | inline inline => cases inline
  target name target _ found := wellFormed (name, target) (Keyed.mem_of_lookup found)

end Components
end RouteIR
