import RouteIR.Proofs.Decoder.Completion

namespace RouteIR

/-!
# Runs of a survey

A survey meets one demand after another and never forgets.  What a single demand
preserves is preserved by a run, and a run over demands that can be met succeeds.  When it
has ended, everything that the demanded types lead to is explored.
-/

namespace Survey

namespace Demand

/-- The type that a demand is about. -/
def type : Demand -> TypeExpr
  | parts type => type
  | list type => type

/-- A demand that can be met: its type refers to components only, and where a list is
asked for it is one of primitives. -/
structure Sound (components : Components) (demand : Demand) : Prop where
  refers : demand.type.RefersTo components
  element : forall type, demand = .list type ->
    Exists fun element => components.listElement? type = .ok (some element)

end Demand

/-- What is known after demands were met. -/
structure Met (components : Components) (demands : List Demand) (before after : Survey) : Prop where
  growth : after.Extends before
  parts : forall type, .parts type ∈ demands -> Explored after type
  lists : forall type element, .list type ∈ demands ->
    components.listElement? type = .ok (some element) -> element.key ∈ after.plan.listKeys
  opened : forall name, name ∈ after.visited -> name ∉ before.visited ->
    Exists fun target => components.lookup name = some target ∧ Explored after target

theorem Met.nil (components : Components) (survey : Survey) : Met components [] survey survey := by
  refine ⟨.refl survey, ?_, ?_, ?_⟩
  · intro type member
    cases member
  · intro type element member
    cases member
  · intro name member fresh
    exact absurd member fresh

/-- Demands met one after the other have been met together. -/
theorem Met.cons {components : Components} {demand : Demand} {rest : List Demand}
    {before middle after : Survey} (first : Met components [demand] before middle)
    (others : Met components rest middle after) : Met components (demand :: rest) before after := by
  refine ⟨others.growth.trans first.growth, ?_, ?_, ?_⟩
  · intro type member
    rcases List.mem_cons.mp member with same | later
    · exact (first.parts type (List.mem_singleton.mpr same)).extend others.growth
    · exact others.parts type later
  · intro type element member found
    rcases List.mem_cons.mp member with same | later
    · have listed := first.lists type element (List.mem_singleton.mpr same) found
      exact others.growth.plan.listKeys listed
    · exact others.lists type element later found
  · intro name visited fresh
    by_cases known : name ∈ middle.visited
    · rcases first.opened name known fresh with ⟨target, found, explored⟩
      exact ⟨target, found, explored.extend others.growth⟩
    · exact others.opened name visited known

theorem meet_met {components : Components} {survey next : Survey} {demand : Demand}
    (met : meet components survey demand = (next, none)) : Met components [demand] survey next := by
  cases demand with
  | parts type =>
      have completed := explore_completed components [type] survey (congrArg Prod.snd met)
      rw [show (explore components [type] survey).1 = next from congrArg Prod.fst met] at completed
      refine ⟨completed.growth, ?_, ?_, completed.opened⟩
      · intro other member
        cases List.mem_singleton.mp member
        exact completed.explored type List.mem_cons_self
      · intro other element member
        cases List.mem_singleton.mp member
  | list type =>
      rw [meet, DecoderPlan.withList] at met
      cases found : components.listElement? type with
      | error rule =>
          rw [found] at met
          cases met
      | ok result =>
          rw [found] at met
          cases result with
          | none => cases met
          | some element =>
              cases met
              refine ⟨extends_replan (survey.plan.extends_withListOf element), ?_, ?_, ?_⟩
              · intro other member
                cases List.mem_singleton.mp member
              · intro other otherElement member otherFound
                cases List.mem_singleton.mp member
                rw [found] at otherFound
                cases otherFound
                rw [DecoderPlan.listKeys_withListOf]
                exact (Keyed.mem_appendNew_iff _ _ _).mpr (Or.inr rfl)
              · intro name visited fresh
                exact absurd visited fresh

theorem meet_succeeds {components : Components} (closed : components.Closed) (survey : Survey)
    {demand : Demand} (sound : demand.Sound components) :
    (meet components survey demand).2 = none := by
  cases demand with
  | parts type =>
      apply explore_succeeds closed
      intro other member
      rw [List.mem_singleton.mp member]
      exact sound.refers
  | list type =>
      rcases sound.element type rfl with ⟨element, found⟩
      simp only [meet, DecoderPlan.withList, found]

/-- A run over demands that can be met succeeds and has met them. -/
theorem meetAll_met {components : Components} (closed : components.Closed)
    (demands : List Demand) (survey : Survey)
    (sound : forall demand, demand ∈ demands -> demand.Sound components) :
    Exists fun final => meetAll components survey demands = .ok final ∧
      Met components demands survey final := by
  induction demands generalizing survey with
  | nil => exact ⟨survey, rfl, .nil components survey⟩
  | cons demand rest ih =>
      have succeeded := meet_succeeds closed survey (sound demand List.mem_cons_self)
      cases outcome : meet components survey demand with
      | mk next failure =>
          rw [outcome] at succeeded
          cases succeeded
          rcases ih next (List.forall_mem_of_forall_mem_cons sound) with ⟨final, run, met⟩
          refine ⟨final, ?_, (meet_met outcome).cons met⟩
          rw [meetAll, outcome]
          exact run

theorem meetAll_parts {components : Components} {survey : Survey} {type : TypeExpr}
    (succeeded : (explore components [type] survey).2 = none) (rest : List Demand) :
    meetAll components survey (.parts type :: rest) =
      meetAll components (explore components [type] survey).1 rest := by
  rw [meetAll, meet]
  split
  · next failed =>
      rw [failed] at succeeded
      cases succeeded
  · next met => rw [met]

theorem meetAll_list {components : Components} {type : TypeExpr} {element : Primitive}
    (found : components.listElement? type = .ok (some element)) (survey : Survey)
    (rest : List Demand) :
    meetAll components survey (.list type :: rest) =
      meetAll components ⟨survey.visited, survey.plan.withListOf element⟩ rest := by
  simp only [meetAll, meet, DecoderPlan.withList, found]

/-- Demands are met in order, those of a second list after those of a first. -/
theorem meetAll_append (components : Components) (survey : Survey) (first rest : List Demand) :
    meetAll components survey (first ++ rest) =
      meetAll components survey first >>= fun next => meetAll components next rest := by
  induction first generalizing survey with
  | nil => rfl
  | cons demand first ih =>
      rw [List.cons_append, meetAll, meetAll]
      split
      · rfl
      · exact ih _

/-- What one demand preserves is preserved by a run. -/
theorem meetAll_invariant {components : Components} {demands : List Demand}
    {motive : Survey -> Prop}
    (step : forall demand survey, demand ∈ demands -> motive survey ->
      motive (meet components survey demand).1)
    {survey final : Survey} (start : motive survey)
    (run : meetAll components survey demands = .ok final) : motive final := by
  induction demands generalizing survey with
  | nil =>
      cases run
      exact start
  | cons demand rest ih =>
      have kept := step demand survey List.mem_cons_self start
      rw [meetAll] at run
      cases outcome : meet components survey demand with
      | mk next failure =>
          rw [outcome] at run kept
          cases failure with
          | some failure => cases run
          | none =>
              refine ih ?_ kept run
              exact fun other survey member => step other survey (List.mem_cons_of_mem _ member)

theorem meet_keeps {motive : DecoderPlan -> Prop} (kept : DecoderPlan.Kept motive)
    {components : Components} (demand : Demand) (survey : Survey) (holds : motive survey.plan) :
    motive (meet components survey demand).1.plan := by
  cases demand with
  | parts type => exact explore_keeps kept components [type] survey holds
  | list type =>
      simp only [meet, DecoderPlan.withList]
      cases components.listElement? type with
      | error rule => exact holds
      | ok found =>
          cases found with
          | none => exact holds
          | some element => exact kept.withListOf survey.plan element holds

/-- What the lists among some demands collect. -/
def ListElement (components : Components) (demands : List Demand) (element : Primitive) : Prop :=
  Exists fun type => .list type ∈ demands ∧ components.listElement? type = .ok (some element)

theorem meet_serves {components : Components} {roots : List TypeExpr} {demands : List Demand}
    (rooted : forall demand, demand ∈ demands -> demand.type ∈ roots) (demand : Demand)
    (survey : Survey) (member : demand ∈ demands)
    (serves : survey.plan.Serves (fun scalar => components.Reaches roots (.primitive scalar))
      (ListElement components demands) (fun values => components.Reaches roots (.enum values))) :
    (meet components survey demand).1.plan.Serves
      (fun scalar => components.Reaches roots (.primitive scalar))
      (ListElement components demands) (fun values => components.Reaches roots (.enum values)) := by
  have root : components.Reaches roots demand.type := .root (rooted demand member)
  cases demand with
  | parts type =>
      refine explore_serves [type] survey ?_ serves
      intro other otherMember
      rw [List.mem_singleton.mp otherMember]
      exact root
  | list type =>
      simp only [meet, DecoderPlan.withList]
      cases found : components.listElement? type with
      | error rule => exact serves
      | ok result =>
          cases result with
          | none => exact serves
          | some scalar => exact serves.withListOf ⟨type, member, found⟩ (root.listElement found)

/-- Once the roots were explored, whatever they lead to has been. -/
theorem explored_of_reaches {components : Components} {demands : List Demand} {final : Survey}
    (met : Met components demands .empty final) {roots : List TypeExpr}
    (demanded : forall root, root ∈ roots -> .parts root ∈ demands) {type : TypeExpr}
    (reached : components.Reaches roots type) : Explored final type := by
  refine Finished.explored ?_ (fun root member => met.parts root (demanded root member)) reached
  exact fun name visited _ => met.opened name visited (by simp [empty])

end Survey

/-- What the empty plan has and every operation keeps, each plan of routes has. -/
theorem DecoderPlan.Kept.ofRoutes {motive : DecoderPlan -> Prop} (kept : Kept motive)
    (start : motive empty) {routes : Routes} {components : Components} {plan : DecoderPlan}
    (planned : ofRoutes routes components = .ok plan) : motive plan := by
  rcases Outcome.map_eq_ok_iff.mp planned with ⟨final, run, rfl⟩
  apply Survey.meetAll_invariant (motive := fun survey => motive survey.plan) _ start run
  exact fun demand survey _ => Survey.meet_keeps kept demand survey

/-- A plan of routes is what their survey finds, where all that it finds has a name. -/
theorem DecoderPlan.forRoutes_eq_ok_iff {routes : Routes} {components : Components}
    {plan : DecoderPlan} :
    forRoutes routes components = .ok plan ↔
      ofRoutes routes components = .ok plan ∧ plan.isNameable = true := by
  rw [forRoutes, Outcome.bind_eq_ok_iff]
  constructor
  · rintro ⟨found, surveyed, kept⟩
    by_cases nameable : found.isNameable = true
    · rw [named, if_pos nameable] at kept
      cases kept
      exact ⟨surveyed, nameable⟩
    · rw [named, if_neg nameable] at kept
      cases kept
  · rintro ⟨surveyed, nameable⟩
    exact ⟨plan, surveyed, if_pos nameable⟩

/-- Once a survey has found everything, only a name can be missing. -/
theorem DecoderPlan.forRoutes_eq_named {routes : Routes} {components : Components}
    {plan : DecoderPlan} (surveyed : ofRoutes routes components = .ok plan) :
    forRoutes routes components = plan.named := by
  rw [forRoutes, surveyed]
  rfl

end RouteIR
