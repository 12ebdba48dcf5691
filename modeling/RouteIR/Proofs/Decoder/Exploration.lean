import RouteIR.Proofs.Decoder.Plan
import RouteIR.Proofs.TypeExpr.Reachability

namespace RouteIR

/-!
# What a survey has found

A type is explored when the plan has the decoders of all its parts and every component
that it refers to directly was visited.  After a survey that did not fail, the types it
started from are explored, and so is the body of every component that it visited; hence
everything they lead to is explored, however the components refer to one another.
-/

namespace Survey

/-- Nothing is left to find in a type, apart from the components that it refers to, which
have been visited. -/
inductive Explored (survey : Survey) : TypeExpr -> Prop
  | primitive {scalar : Primitive}
      (planned : scalar.refinements ≠ [] -> scalar.key ∈ survey.plan.refinedKeys) :
      Explored survey (.primitive scalar)
  | array {element : TypeExpr} (inner : Explored survey element) : Explored survey (.array element)
  | enum {values : List Literal}
      (planned : Literal.identities values ∈ survey.plan.literalSets) :
      Explored survey (.enum values)
  | ref {name : String} (visited : name ∈ survey.visited) : Explored survey (.ref name)
  | record {fields : List (Field TypeExpr)}
      (inner : forall field, field ∈ fields -> Explored survey field.type) :
      Explored survey (.record fields)

/-- A survey that knows all that an earlier one knew. -/
structure Extends (larger smaller : Survey) : Prop where
  visited : smaller.visited ⊆ larger.visited
  plan : larger.plan.Extends smaller.plan

theorem Extends.refl (survey : Survey) : survey.Extends survey := ⟨fun _ => id, .refl _⟩

theorem Extends.trans {last middle first : Survey} (later : last.Extends middle)
    (earlier : middle.Extends first) : last.Extends first :=
  ⟨fun _ member => later.visited (earlier.visited member), later.plan.trans earlier.plan⟩

theorem extends_visit (survey : Survey) (name : String) :
    Extends ⟨name :: survey.visited, survey.plan⟩ survey :=
  ⟨List.subset_cons_self name survey.visited, .refl _⟩

theorem extends_replan {survey : Survey} {plan : DecoderPlan} (growth : plan.Extends survey.plan) :
    Extends ⟨survey.visited, plan⟩ survey :=
  ⟨fun _ => id, growth⟩

theorem Explored.extend {larger smaller : Survey} (growth : larger.Extends smaller)
    {type : TypeExpr} (explored : Explored smaller type) : Explored larger type := by
  induction explored with
  | primitive planned => exact .primitive fun refined => growth.plan.refinedKeys (planned refined)
  | array _ ih => exact .array ih
  | enum planned => exact .enum (growth.plan.literalSets planned)
  | ref visited => exact .ref (growth.visited visited)
  | record _ ih => exact .record ih

/-! ## Going through types -/

/-- Induction along a survey, with one case for each kind of type at the front.  A
reference is passed over, leads nowhere, or opens a component not yet visited. -/
theorem explore_induction (components : Components)
    {motive : List TypeExpr -> Survey -> Survey × Option Failure -> Prop}
    (nil : forall survey, motive [] survey (survey, none))
    (primitive : forall scalar rest survey outcome,
      motive rest ⟨survey.visited, survey.plan.withPrimitive scalar⟩ outcome ->
      motive (.primitive scalar :: rest) survey outcome)
    (enum : forall values rest survey outcome,
      motive rest ⟨survey.visited, survey.plan.withEnum values⟩ outcome ->
      motive (.enum values :: rest) survey outcome)
    (array : forall element rest survey outcome,
      motive (element :: rest) survey outcome -> motive (.array element :: rest) survey outcome)
    (record : forall fields rest survey outcome,
      motive (fields.map (·.type) ++ rest) survey outcome ->
      motive (.record fields :: rest) survey outcome)
    (visited : forall name rest survey outcome, name ∈ survey.visited ->
      motive rest survey outcome -> motive (.ref name :: rest) survey outcome)
    (missing : forall name rest survey, name ∉ survey.visited -> components.lookup name = none ->
      motive (.ref name :: rest) survey
        (⟨name :: survey.visited, survey.plan⟩, some (.unknownComponent name)))
    (opened : forall name target rest survey outcome, name ∉ survey.visited ->
      components.lookup name = some target ->
      motive (target :: rest) ⟨name :: survey.visited, survey.plan⟩ outcome ->
      motive (.ref name :: rest) survey outcome)
    (types : List TypeExpr) (survey : Survey) :
    motive types survey (explore components types survey) := by
  fun_induction explore components types survey with
  | case1 survey => exact nil survey
  | case2 survey scalar rest ih => exact primitive scalar rest survey _ ih
  | case3 survey values rest ih => exact enum values rest survey _ ih
  | case4 survey element rest ih => exact array element rest survey _ ih
  | case5 survey fields rest ih =>
      rw [List.map_attach_eq_pmap, List.pmap_eq_map] at ih
      exact record fields rest survey _ ih
  | case6 survey name rest known ih => exact visited name rest survey _ (by simpa using known) ih
  | case7 survey name rest fresh _ absent =>
      exact missing name rest survey (by simpa using fresh) absent
  | case8 survey name rest fresh _ target found ih =>
      exact opened name target rest survey _ (by simpa using fresh) found ih

/-- What a survey that did not fail has made of its types and of the components that it
opened on the way. -/
structure Completed (components : Components) (types : List TypeExpr) (before after : Survey) :
    Prop where
  growth : after.Extends before
  explored : forall type, type ∈ types -> Explored after type
  opened : forall name, name ∈ after.visited -> name ∉ before.visited ->
    Exists fun target => components.lookup name = some target ∧ Explored after target

/-- The type at the front is completed with the rest, when no component was opened for it. -/
theorem Completed.cons {components : Components} {before middle after : Survey} {type : TypeExpr}
    {rest others : List TypeExpr} (completed : Completed components others middle after)
    (growth : middle.Extends before) (unopened : middle.visited = before.visited)
    (within : forall other, other ∈ rest -> other ∈ others) (explored : Explored after type) :
    Completed components (type :: rest) before after := by
  refine ⟨completed.growth.trans growth, ?_, ?_⟩
  · intro other member
    rcases List.mem_cons.mp member with rfl | later
    · exact explored
    · exact completed.explored other (within other later)
  · rw [← unopened]
    exact completed.opened

/-- A reference at the front is completed with the component that is opened for it. -/
theorem Completed.reference {components : Components} {before after : Survey} {name : String}
    {target : TypeExpr} {rest : List TypeExpr} (found : components.lookup name = some target)
    (completed : Completed components (target :: rest) ⟨name :: before.visited, before.plan⟩ after) :
    Completed components (.ref name :: rest) before after := by
  refine ⟨completed.growth.trans (extends_visit before name), ?_, ?_⟩
  · intro type member
    rcases List.mem_cons.mp member with rfl | later
    · exact .ref (completed.growth.visited List.mem_cons_self)
    · exact completed.explored type (List.mem_cons_of_mem _ later)
  · intro other visited fresh
    by_cases same : other = name
    · rw [same]
      exact ⟨target, found, completed.explored target List.mem_cons_self⟩
    · apply completed.opened other visited
      intro member
      rcases List.mem_cons.mp member with equal | old
      · exact same equal
      · exact fresh old

/-- A survey that does not fail explores its types, and the body of each component that
it opens.  A component counts as visited when it is opened, while its body is still to
be explored; comparing with the last state makes this order immaterial. -/
theorem explore_completed (components : Components) (types : List TypeExpr) (survey : Survey)
    (succeeded : (explore components types survey).2 = none) :
    Completed components types survey (explore components types survey).1 := by
  revert succeeded
  apply explore_induction components
    (motive := fun types before outcome =>
      outcome.2 = none -> Completed components types before outcome.1)
  case nil =>
    intro before _
    refine ⟨.refl before, ?_, ?_⟩
    · intro type member
      cases member
    · intro name member fresh
      exact absurd member fresh
  case primitive =>
    intro scalar rest before outcome ih succeeded
    have completed := ih succeeded
    refine completed.cons (extends_replan (before.plan.extends_withPrimitive scalar)) rfl
      (fun _ => id) (.primitive fun refined => completed.growth.plan.refinedKeys ?_)
    rw [DecoderPlan.refinedKeys_withPrimitive, if_neg refined]
    exact (Keyed.mem_appendNew_iff _ _ _).mpr (Or.inr rfl)
  case enum =>
    intro values rest before outcome ih succeeded
    have completed := ih succeeded
    refine completed.cons (extends_replan (before.plan.extends_withEnum values)) rfl
      (fun _ => id) (.enum (completed.growth.plan.literalSets ?_))
    rw [DecoderPlan.literalSets_withEnum]
    exact (Keyed.mem_appendNew_iff _ _ _).mpr (Or.inr rfl)
  case array =>
    intro element rest before outcome ih succeeded
    have completed := ih succeeded
    exact completed.cons (.refl before) rfl (fun _ => List.mem_cons_of_mem element)
      (.array (completed.explored element List.mem_cons_self))
  case record =>
    intro fields rest before outcome ih succeeded
    have completed := ih succeeded
    refine completed.cons (.refl before) rfl (fun _ => List.mem_append_right _) (.record ?_)
    intro field fieldMember
    exact completed.explored field.type
      (List.mem_append_left _ (List.mem_map_of_mem fieldMember))
  case visited =>
    intro name rest before outcome known ih succeeded
    have completed := ih succeeded
    exact completed.cons (.refl before) rfl (fun _ => id) (.ref (completed.growth.visited known))
  case missing =>
    intro name rest before _ _ failed
    cases failed
  case opened =>
    intro name target rest before outcome _ found ih succeeded
    exact (ih succeeded).reference found

/-- Over closed components no survey of types that refer to components fails. -/
theorem explore_succeeds {components : Components} (closed : components.Closed)
    (types : List TypeExpr) (survey : Survey)
    (refers : forall type, type ∈ types -> type.RefersTo components) :
    (explore components types survey).2 = none := by
  have hereditary := closed.hereditary
  revert refers
  apply explore_induction components
    (motive := fun types _ outcome =>
      (forall type, type ∈ types -> type.RefersTo components) -> outcome.2 = none)
  case nil => exact fun _ _ => rfl
  case primitive => exact fun _ _ _ _ ih refers => ih (List.forall_mem_of_forall_mem_cons refers)
  case enum => exact fun _ _ _ _ ih refers => ih (List.forall_mem_of_forall_mem_cons refers)
  case array => exact fun _ _ _ _ ih refers => ih (hereditary.opened_array refers)
  case record => exact fun _ _ _ _ ih refers => ih (hereditary.opened_record refers)
  case visited => exact fun _ _ _ _ _ ih refers => ih (List.forall_mem_of_forall_mem_cons refers)
  case missing =>
    intro name rest before _ absent refers
    rcases (Keyed.exists_lookup_iff name components).mpr (refers _ List.mem_cons_self).ref with
      ⟨target, found⟩
    rw [absent] at found
    cases found
  case opened => exact fun _ _ _ _ _ _ found ih refers => ih (hereditary.opened_ref found refers)

/-- What every operation on a plan keeps is kept by a survey. -/
theorem explore_keeps {motive : DecoderPlan -> Prop} (kept : DecoderPlan.Kept motive)
    (components : Components) (types : List TypeExpr) (survey : Survey)
    (holds : motive survey.plan) : motive (explore components types survey).1.plan := by
  revert holds
  apply explore_induction components
    (motive := fun _ before outcome => motive before.plan -> motive outcome.1.plan)
  case nil => exact fun _ holds => holds
  case primitive =>
    exact fun scalar _ before _ ih holds => ih (kept.withPrimitive before.plan scalar holds)
  case enum => exact fun values _ before _ ih holds => ih (kept.withEnum before.plan values holds)
  case array => exact fun _ _ _ _ ih holds => ih holds
  case record => exact fun _ _ _ _ ih holds => ih holds
  case visited => exact fun _ _ _ _ _ ih holds => ih holds
  case missing => exact fun _ _ _ _ _ holds => holds
  case opened => exact fun _ _ _ _ _ _ _ ih holds => ih holds

/-- Each decoder that a survey adds is made for a type that its types lead to. -/
theorem explore_serves {components : Components} {roots : List TypeExpr}
    {elements : Primitive -> Prop} (types : List TypeExpr) (survey : Survey)
    (reached : forall type, type ∈ types -> components.Reaches roots type)
    (serves : survey.plan.Serves (fun scalar => components.Reaches roots (.primitive scalar))
      elements (fun values => components.Reaches roots (.enum values))) :
    (explore components types survey).1.plan.Serves
      (fun scalar => components.Reaches roots (.primitive scalar)) elements
      (fun values => components.Reaches roots (.enum values)) := by
  have hereditary := components.hereditary_reaches roots
  revert reached serves
  apply explore_induction components
    (motive := fun types before outcome =>
      (forall type, type ∈ types -> components.Reaches roots type) ->
      before.plan.Serves (fun scalar => components.Reaches roots (.primitive scalar)) elements
        (fun values => components.Reaches roots (.enum values)) ->
      outcome.1.plan.Serves (fun scalar => components.Reaches roots (.primitive scalar)) elements
        (fun values => components.Reaches roots (.enum values)))
  case nil => exact fun _ _ serves => serves
  case primitive =>
    intro scalar rest before outcome ih reached serves
    exact ih (List.forall_mem_of_forall_mem_cons reached)
      (serves.withPrimitive (reached _ List.mem_cons_self))
  case enum =>
    intro values rest before outcome ih reached serves
    exact ih (List.forall_mem_of_forall_mem_cons reached)
      (serves.withEnum (reached _ List.mem_cons_self))
  case array => exact fun _ _ _ _ ih reached serves => ih (hereditary.opened_array reached) serves
  case record => exact fun _ _ _ _ ih reached serves => ih (hereditary.opened_record reached) serves
  case visited =>
    exact fun _ _ _ _ _ ih reached serves => ih (List.forall_mem_of_forall_mem_cons reached) serves
  case missing => exact fun _ _ _ _ _ _ serves => serves
  case opened =>
    exact fun _ _ _ _ _ _ found ih reached serves => ih (hereditary.opened_ref found reached) serves

end Survey
end RouteIR
