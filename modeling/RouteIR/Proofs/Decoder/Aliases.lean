import RouteIR.Proofs.Decoder.Exactness
import RouteIR.Proofs.TypeExpr.Components
import RouteIR.Proofs.TypeExpr.Locality

namespace RouteIR

/-!
# Opened aliases

A reference to a component that is no record may be replaced by the type of the component.
The survey of the opened routes does not visit the component at that place, and may open it
later.  It lags behind the other survey by components that it has not visited, but whose types
it has explored; opening one of them later finds nothing.

An alias leads through arrays to one leaf.  It is there that a cycle may lead back to the alias
while it is open, and there the two surveys agree again.  A record may have such a way back
between two fields, and opening it may change the order of what is found.
-/

namespace TypeExpr

/-- What is left of a type without its arrays. -/
def core : TypeExpr -> TypeExpr
  | array element => element.core
  | type => type

theorem core_ne_array (type element : TypeExpr) : type.core ≠ .array element := by
  induction type using core.induct with
  | case1 inner ih =>
      rw [core]
      exact ih
  | case2 type notArray =>
      rw [core]
      · exact notArray element
      · exact notArray

/-- A type in which references to components that are no records, at the top or inside arrays,
may have been replaced by the types of the components. -/
inductive Opened (components : Components) : TypeExpr -> TypeExpr -> Prop
  | same (type : TypeExpr) : Opened components type type
  | ref {name : String} {target : TypeExpr} (found : components.lookup name = some target)
      (noRecord : forall fields, target ≠ .record fields) : Opened components (.ref name) target
  | array {element other : TypeExpr} (inner : Opened components element other) :
      Opened components (.array element) (.array other)

/-- Lowering puts a record under no array. -/
theorem coreCases (components : List String) :
    LoweringCases components fun position _ type =>
      forall fields, type.core = .record fields -> type = .record fields ∧ position = .component where
  record properties required fields _ := fun _ same => ⟨same, rfl⟩
  array position element type ih := by
    intro fields same
    have nested := (ih fields same).2
    cases position <;> cases nested
  primitive _ _ _ _ _ _ := fun _ same => nomatch same
  enum _ _ _ := fun _ same => nomatch same
  ref _ _ _ := fun _ same => nomatch same

end TypeExpr

namespace Components

/-- No component has a record under an array. -/
def Flat (components : Components) : Prop :=
  forall name target, components.lookup name = some target ->
    forall fields, target.core = .record fields -> target = .record fields

theorem flat_of_ofSchemas {schemas : List (String × Schema)} {components : Components}
    (made : ofSchemas schemas = .ok components) : components.Flat := by
  intro name target found fields same
  rcases Outcome.exists_left_of_forall₂ (forall₂_of_ofSchemas made) (Keyed.mem_of_lookup found)
    with ⟨declared, _, componentOf⟩
  exact ((TypeExpr.coreCases _).of_lowered _ _ _ componentOf.lowered fields same).1

variable {components : Components}

/-- What opened types resolve to is opened in turn. -/
theorem exists_resolve_of_opened {type other target : TypeExpr}
    (opened : type.Opened components other) (resolved : components.resolve type = .ok target) :
    Exists fun otherTarget => components.resolve other = .ok otherTarget ∧
      target.Opened components otherTarget := by
  cases opened with
  | same => exact ⟨target, resolved, .same target⟩
  | ref found _ =>
      rcases resolve_eq_ok_iff.mp resolved with ⟨names, chain⟩
      cases chain with
      | done ends => exact absurd rfl (ends _)
      | link linkFound rest =>
          rw [found] at linkFound
          cases linkFound
          exact ⟨target, resolve_eq_ok_iff.mpr ⟨_, rest⟩, .same target⟩
  | array inner =>
      cases resolved
      exact ⟨_, rfl, .array inner⟩

/-- Whether a type is a list of primitives, and of which, can be seen of the opened type. -/
theorem listElement?_of_opened {type other : TypeExpr} {found : Option Primitive}
    (opened : type.Opened components other) (listed : components.listElement? type = .ok found) :
    components.listElement? other = .ok found := by
  rw [listElement?] at listed
  rcases Outcome.bind_eq_ok_iff.mp listed with ⟨target, resolved, inside⟩
  rcases exists_resolve_of_opened opened resolved with ⟨otherTarget, otherResolved, targetOpened⟩
  rw [listElement?]
  refine Outcome.bind_eq_ok_iff.mpr ⟨otherTarget, otherResolved, ?_⟩
  cases targetOpened with
  | same => exact inside
  | ref => exact absurd rfl (resolve_ne_ref resolved _)
  | array inner =>
      rcases Outcome.bind_eq_ok_iff.mp inside with ⟨scalar, scalarResolved, isScalar⟩
      rcases exists_resolve_of_opened inner scalarResolved with
        ⟨otherScalar, otherScalarResolved, scalarOpened⟩
      refine Outcome.bind_eq_ok_iff.mpr ⟨otherScalar, otherScalarResolved, ?_⟩
      cases scalarOpened with
      | same => exact isScalar
      | ref => exact absurd rfl (resolve_ne_ref scalarResolved _)
      | array => exact isScalar

end Components

namespace Survey

variable {components : Components}

/-! ## Leaves -/

theorem explore_core (type : TypeExpr) (rest : List TypeExpr) (survey : Survey) :
    explore components (type :: rest) survey = explore components (type.core :: rest) survey := by
  induction type using TypeExpr.core.induct with
  | case1 element ih => rw [explore, ih, TypeExpr.core]
  | case2 type notArray => rw [TypeExpr.core]; exact notArray

theorem explored_of_core {survey : Survey} (type : TypeExpr)
    (explored : Explored survey type.core) : Explored survey type := by
  induction type using TypeExpr.core.induct with
  | case1 element ih => exact .array (ih explored)
  | case2 type notArray => rwa [TypeExpr.core] at explored; exact notArray

/-! ## Two surveys -/

/-- A survey that has found the same as another, and has explored the types of the components
that only the other has visited. -/
structure Lags (components : Components) (behind ahead : Survey) : Prop where
  plan : behind.plan = ahead.plan
  visited : behind.visited ⊆ ahead.visited
  missed : forall name, name ∈ ahead.visited -> name ∉ behind.visited ->
    Exists fun target => components.lookup name = some target ∧ Explored behind target

theorem lags_refl (components : Components) (survey : Survey) : Lags components survey survey :=
  ⟨rfl, fun _ => id, fun _ visited fresh => absurd visited fresh⟩

/-- The survey behind lags on, if it has explored the types of all that the other visits. -/
theorem Lags.step {behind ahead next final : Survey} (lags : Lags components behind ahead)
    (growth : next.Extends behind) (plan : next.plan = final.plan)
    (visited : next.visited ⊆ final.visited)
    (caught : forall name, name ∈ final.visited -> name ∉ ahead.visited ->
      name ∉ next.visited ->
      Exists fun target => components.lookup name = some target ∧ Explored next target) :
    Lags components next final := by
  refine ⟨plan, visited, fun name finalVisited fresh => ?_⟩
  by_cases known : name ∈ ahead.visited
  · have missed : name ∉ behind.visited := fun member => fresh (growth.visited member)
    rcases lags.missed name known missed with ⟨target, found, explored⟩
    exact ⟨target, found, explored.extend growth⟩
  · exact caught name finalVisited known fresh

/-- Going through the same types, a survey lags behind as before. -/
theorem explore_lags (types : List TypeExpr) {behind ahead : Survey}
    (lags : Lags components behind ahead)
    (succeeded : (explore components types ahead).2 = none) :
    Exists fun next => explore components types behind = (next, none) ∧
      Lags components next (explore components types ahead).1 := by
  revert behind lags succeeded
  apply explore_induction components (motive := fun types ahead outcome =>
    forall behind, Lags components behind ahead -> outcome.2 = none ->
      Exists fun next => explore components types behind = (next, none) ∧
        Lags components next outcome.1)
  case nil =>
    intro ahead behind lags _
    exact ⟨behind, by rw [explore], lags⟩
  case primitive =>
    intro scalar rest ahead outcome ih behind lags succeeded
    rw [explore]
    refine ih _ (lags.step (extends_replan (behind.plan.extends_withPrimitive scalar)) ?_
      lags.visited fun _ known fresh => absurd known fresh) succeeded
    rw [lags.plan]
  case enum =>
    intro values rest ahead outcome ih behind lags succeeded
    rw [explore]
    refine ih _ (lags.step (extends_replan (behind.plan.extends_withEnum values)) ?_
      lags.visited fun _ known fresh => absurd known fresh) succeeded
    rw [lags.plan]
  case array =>
    intro element rest ahead outcome ih behind lags succeeded
    rw [explore]
    exact ih behind lags succeeded
  case record =>
    intro fields rest ahead outcome ih behind lags succeeded
    rw [explore]
    exact ih behind lags succeeded
  case visited =>
    intro name rest ahead outcome known ih behind lags succeeded
    by_cases visited : name ∈ behind.visited
    · rw [explore_visited visited]
      exact ih behind lags succeeded
    · rcases lags.missed name known visited with ⟨target, found, explored⟩
      have growth := extends_visit behind name
      rw [explore_opened visited found, explore_explored (explored.extend growth)]
      refine ih _ (lags.step growth lags.plan ?_ fun _ known fresh => absurd known fresh) succeeded
      exact List.cons_subset.mpr ⟨known, lags.visited⟩
  case missing =>
    intro name rest ahead _ _ behind _ failed
    cases failed
  case opened =>
    intro name target rest ahead outcome fresh found ih behind lags succeeded
    rw [explore_opened (fun visited => fresh (lags.visited visited)) found]
    refine ih _ (lags.step (extends_visit behind name) lags.plan ?_ ?_) succeeded
    · exact List.cons_subset_cons name lags.visited
    · intro other visited unknown missed
      rcases List.mem_cons.mp visited with rfl | known
      · exact absurd List.mem_cons_self missed
      · exact absurd known unknown

/-! ## Opening an alias -/

/-- The survey ahead visits a component that the survey behind explores without a visit. -/
theorem Lags.count {behind ahead next final : Survey} (lags : Lags components behind ahead)
    {name : String} {target : TypeExpr} (found : components.lookup name = some target)
    (growth : next.Extends behind) (plan : next.plan = final.plan)
    (within : next.visited ⊆ final.visited)
    (counted : forall other, other ∈ final.visited ->
      other = name ∨ other ∈ next.visited ∨ other ∈ ahead.visited)
    (explored : Explored next target) : Lags components next final := by
  refine lags.step growth plan within fun other visited unknown missed => ?_
  rcases counted other visited with rfl | caught | known
  · exact ⟨target, found, explored⟩
  · exact absurd caught missed
  · exact absurd known unknown

/-- An alias that ends without a reference changes the plan in both surveys alike. -/
theorem lags_of_plain {behind ahead : Survey} (lags : Lags components behind ahead)
    {name : String} {target : TypeExpr} (found : components.lookup name = some target)
    (change : DecoderPlan -> DecoderPlan)
    (plain : forall survey,
      explore components [target] survey = (⟨survey.visited, change survey.plan⟩, none)) :
    Exists fun next => explore components [target] behind = (next, none) ∧
      Lags components next ⟨name :: ahead.visited, change ahead.plan⟩ := by
  have completed := explore_completed components [target] behind (by rw [plain])
  rw [plain] at completed
  refine ⟨_, plain behind, lags.count found completed.growth ?_ ?_ ?_ ?_⟩
  · rw [lags.plan]
  · exact fun _ visited => List.mem_cons_of_mem name (lags.visited visited)
  · intro other visited
    rcases List.mem_cons.mp visited with same | known
    · exact Or.inl same
    · exact Or.inr (Or.inr known)
  · exact completed.explored target List.mem_cons_self

/-- Where an alias ends in a reference, both surveys go on there, or neither finds anything.
The reference may be one back to the alias. -/
theorem lags_of_core_ref {behind ahead : Survey} (lags : Lags components behind ahead)
    {name inner : String} {target : TypeExpr} (found : components.lookup name = some target)
    (ends : target.core = .ref inner)
    (succeeded : (explore components [.ref inner] ⟨name :: ahead.visited, ahead.plan⟩).2 = none) :
    Exists fun next => explore components [.ref inner] behind = (next, none) ∧
      Lags components next
        (explore components [.ref inner] ⟨name :: ahead.visited, ahead.plan⟩).1 := by
  have explored {survey : Survey} (visited : inner ∈ survey.visited) :
      Explored survey target := explored_of_core target (by rw [ends]; exact .ref visited)
  have growth := extends_visit behind inner
  have within : behind.visited ⊆ name :: ahead.visited :=
    fun _ visited => List.mem_cons_of_mem name (lags.visited visited)
  -- the splits follow which of the two surveys has visited the end: if only the one ahead has,
  -- it may be the alias itself, and the other opens it for nothing
  by_cases visited : inner ∈ behind.visited
  · rw [explore_visited visited, explore_visited (within visited), explore, explore]
    refine ⟨behind, rfl, lags.count found (.refl behind) lags.plan within ?_ (explored visited)⟩
    intro other member
    exact (List.mem_cons.mp member).imp_right Or.inr
  by_cases known : inner ∈ name :: ahead.visited
  · have opened : Exists fun body => components.lookup inner = some body ∧
        Explored ⟨inner :: behind.visited, behind.plan⟩ body := by
      rcases List.mem_cons.mp known with rfl | aheadKnown
      · exact ⟨target, found, explored List.mem_cons_self⟩
      · rcases lags.missed inner aheadKnown visited with ⟨body, bodyFound, bodyExplored⟩
        exact ⟨body, bodyFound, bodyExplored.extend growth⟩
    rcases opened with ⟨body, bodyFound, bodyExplored⟩
    rw [explore_opened visited bodyFound, explore_explored bodyExplored, explore,
      explore_visited known, explore]
    refine ⟨_, rfl, lags.count found growth lags.plan (List.cons_subset.mpr ⟨known, within⟩) ?_
      (explored List.mem_cons_self)⟩
    intro other member
    exact (List.mem_cons.mp member).imp_right Or.inr
  · rcases exists_target_of_explore known succeeded with ⟨body, bodyFound⟩
    rw [explore_opened known bodyFound] at succeeded
    rw [explore_opened visited bodyFound, explore_opened known bodyFound]
    refine explore_lags [body] (lags.count found growth lags.plan ?_ ?_
      (explored List.mem_cons_self)) succeeded
    · exact List.cons_subset_cons inner within
    · intro other member
      rcases List.mem_cons.mp member with rfl | later
      · exact Or.inr (Or.inl List.mem_cons_self)
      · exact (List.mem_cons.mp later).imp_right Or.inr

theorem lags_of_alias {behind ahead : Survey} (lags : Lags components behind ahead)
    (finished : Finished components (fun _ => True) behind)
    {name : String} {target : TypeExpr} (found : components.lookup name = some target)
    (noRecord : forall fields, target.core ≠ .record fields)
    (succeeded : (explore components [.ref name] ahead).2 = none) :
    Exists fun next => explore components [target] behind = (next, none) ∧
      Lags components next (explore components [.ref name] ahead).1 := by
  by_cases known : name ∈ ahead.visited
  · have explored : Explored behind target := by
      by_cases visited : name ∈ behind.visited
      · exact finished.target visited trivial found
      · rcases lags.missed name known visited with ⟨other, otherFound, explored⟩
        rw [found] at otherFound
        cases otherFound
        exact explored
    rw [explore_visited known, explore, explore_explored explored, explore]
    exact ⟨behind, rfl, lags⟩
  · rw [explore_opened known found] at succeeded ⊢
    have leaf (survey : Survey) : explore components [target] survey =
        explore components [target.core] survey := explore_core target [] survey
    cases ends : target.core with
    | primitive scalar =>
        have plain (survey : Survey) : explore components [target] survey =
            (⟨survey.visited, survey.plan.withPrimitive scalar⟩, none) := by
          rw [leaf, ends, explore, explore]
        rw [plain ⟨name :: ahead.visited, ahead.plan⟩]
        exact lags_of_plain lags found (·.withPrimitive scalar) plain
    | enum values =>
        have plain (survey : Survey) : explore components [target] survey =
            (⟨survey.visited, survey.plan.withEnum values⟩, none) := by
          rw [leaf, ends, explore, explore]
        rw [plain ⟨name :: ahead.visited, ahead.plan⟩]
        exact lags_of_plain lags found (·.withEnum values) plain
    | array element => exact absurd ends (target.core_ne_array element)
    | ref inner =>
        rw [leaf, ends] at succeeded
        rw [leaf, leaf ⟨name :: ahead.visited, ahead.plan⟩, ends]
        exact lags_of_core_ref lags found ends succeeded
    | record fields => exact absurd ends (noRecord fields)

/-- Going through opened types, a survey lags behind the one of the types as they were. -/
theorem lags_of_opened (flat : components.Flat) {type other : TypeExpr}
    (opened : type.Opened components other) {behind ahead : Survey}
    (lags : Lags components behind ahead) (finished : Finished components (fun _ => True) behind)
    (succeeded : (explore components [type] ahead).2 = none) :
    Exists fun next => explore components [other] behind = (next, none) ∧
      Lags components next (explore components [type] ahead).1 := by
  induction opened with
  | same type => exact explore_lags [type] lags succeeded
  | ref found noRecord =>
      refine lags_of_alias lags finished found (fun fields ends => ?_) succeeded
      exact noRecord fields (flat _ _ found fields ends)
  | array inner ih =>
      have inside (element : TypeExpr) (survey : Survey) :
          explore components [.array element] survey = explore components [element] survey := by
        rw [explore]
      rw [inside] at succeeded
      rw [inside, inside]
      exact ih succeeded

/-! ## Runs -/

/-- A demand for an opened type in the place of one for the type as it was. -/
inductive Demand.Opened (components : Components) : Demand -> Demand -> Prop
  | parts {type other : TypeExpr} (opened : type.Opened components other) :
      Opened components (.parts type) (.parts other)
  | list {type other : TypeExpr} (opened : type.Opened components other) :
      Opened components (.list type) (.list other)

theorem meetAll_lags (closed : components.Closed) (flat : components.Flat)
    {demands changed : List Demand} (opened : List.Forall₂ (Demand.Opened components) demands changed)
    (sound : forall demand, demand ∈ demands -> demand.Sound components) {behind ahead : Survey}
    (lags : Lags components behind ahead) (finished : Finished components (fun _ => True) behind) :
    Exists fun next => Exists fun final => meetAll components behind changed = .ok next ∧
      meetAll components ahead demands = .ok final ∧ Lags components next final := by
  induction opened generalizing behind ahead with
  | nil => exact ⟨behind, ahead, rfl, rfl, lags⟩
  | @cons demand changedDemand rest changedRest first _ ih =>
      have firstSound := sound demand List.mem_cons_self
      have restSound := List.forall_mem_of_forall_mem_cons sound
      cases first with
      | @parts type other opened =>
          have succeeded : (explore components [type] ahead).2 = none :=
            explore_succeeds closed [type] ahead (List.forall_mem_singleton.mpr firstSound.refers)
          rcases lags_of_opened flat opened lags finished succeeded with ⟨next, run, nextLags⟩
          have completed := explore_completed components [other] behind (by rw [run])
          rw [run] at completed
          rw [meetAll_parts succeeded, meetAll_parts (by rw [run]), run]
          exact ih restSound nextLags (finished.completed completed)
      | @list type other opened =>
          rcases firstSound.element type rfl with ⟨element, found⟩
          have otherFound := Components.listElement?_of_opened opened found
          rw [meetAll_list found, meetAll_list otherFound]
          have growth := extends_replan (behind.plan.extends_withListOf element)
          refine ih restSound (lags.step growth ?_ lags.visited ?_) (finished.extend growth rfl)
          · rw [lags.plan]
          · exact fun _ known fresh => absurd known fresh

end Survey

/-! ## Routes -/

/-- A parameter whose type was opened, and that is the same apart from it. -/
structure Parameter.Opened (components : Components) (before after : Parameter) : Prop where
  type : before.type.Opened components after.type
  rest : after = { before with type := after.type }

/-- A route in whose types aliases were opened, and that is the same apart from them. -/
structure RouteItem.Opened (components : Components) (before after : RouteItem) : Prop where
  parameters : List.Forall₂ (Parameter.Opened components) before.parameters after.parameters
  requestBody : Option.Rel (TypeExpr.Opened components) before.requestBody after.requestBody
  responses : List.Forall₂
    (fun response other => other.1 = response.1 ∧
      Option.Rel (TypeExpr.Opened components) response.2 other.2)
    before.responses after.responses
  rest : after = { before with
    parameters := after.parameters, requestBody := after.requestBody,
    responses := after.responses }

/-- Routes with the same templates, in whose types aliases were opened. -/
def Routes.Opened (components : Components) (before after : Routes) : Prop :=
  List.Forall₂
    (fun entry other => other.1 = entry.1 ∧ other.2.template = entry.2.template ∧
      List.Forall₂ (RouteItem.Opened components) entry.2.items other.2.items)
    before after

namespace Routes

variable {components : Components}

theorem Opened.items {before after : Routes} (opened : before.Opened components after) :
    List.Forall₂ (RouteItem.Opened components) before.items after.items :=
  List.rel_flatMap opened fun _ _ one => one.2.2

theorem demands_of_openedParameter {before after : Parameter}
    (opened : before.Opened components after) :
    List.Forall₂ (Survey.Demand.Opened components) before.demands after.demands := by
  have marked : after.listValued = before.listValued := by rw [opened.rest]
  rw [Parameter.demands, Parameter.demands, marked]
  refine .cons (.parts opened.type) ?_
  split
  · exact .cons (.list opened.type) .nil
  · exact .nil

theorem rel_toList {α β : Type} {relation : α -> β -> Prop} {left : Option α} {right : Option β}
    (related : Option.Rel relation left right) :
    List.Forall₂ relation left.toList right.toList := by
  cases related with
  | some one => exact .cons one .nil
  | none => exact .nil

theorem demands_of_openedItem {before after : RouteItem} (opened : before.Opened components after) :
    List.Forall₂ (Survey.Demand.Opened components) before.demands after.demands := by
  have responses : List.Forall₂ (TypeExpr.Opened components) (before.responses.filterMap (·.2))
      (after.responses.filterMap (·.2)) :=
    List.rel_filterMap (fun _ _ one => one.2) opened.responses
  have parts := List.rel_map (R := TypeExpr.Opened components)
    (P := Survey.Demand.Opened components) (fun _ _ one => .parts one)
    (List.rel_append (rel_toList opened.requestBody) responses)
  rw [RouteItem.demands, RouteItem.demands]
  refine List.rel_append ?_ parts
  exact List.rel_flatMap opened.parameters fun _ _ one => demands_of_openedParameter one

theorem Opened.demands {before after : Routes} (opened : before.Opened components after) :
    List.Forall₂ (Survey.Demand.Opened components) before.demands after.demands :=
  List.rel_flatMap opened.items fun _ _ one => demands_of_openedItem one

/-- A mark can be seen of the opened type. -/
theorem isListValued_of_opened {location : ParameterLocation} {type other : TypeExpr} {mark : Bool}
    (opened : type.Opened components other)
    (marked : isListValued components location type = .ok mark) :
    isListValued components location other = .ok mark := by
  cases location with
  | query =>
      have found := Outcome.mapError_eq_ok_iff.mp marked
      rcases Outcome.map_eq_ok_iff.mp found with ⟨element, listed, rfl⟩
      refine Outcome.mapError_eq_ok_iff.mpr (Outcome.map_eq_ok_iff.mpr ⟨element, ?_, rfl⟩)
      exact Components.listElement?_of_opened opened listed
  | header | path => exact marked

end Routes

namespace DecoderPlan

theorem planned_of_opened {schemas : List (String × Schema)} {components : Components}
    (translated : Components.ofSchemas schemas = .ok components)
    {paths : List (String × List Operation)} {routes changed : Routes}
    (made : Routes.ofPaths components paths = .ok routes)
    (opened : routes.Opened components changed) :
    (Exists fun plan => ofRoutes routes components = .ok plan ∧
      ofRoutes changed components = .ok plan) ∧
    forall item, item ∈ changed.items -> forall parameter, parameter ∈ item.parameters ->
      Routes.isListValued components parameter.location parameter.type =
        .ok parameter.listValued := by
  have closed := (Components.settled_of_ofSchemas translated).closed
  have flat := Components.flat_of_ofSchemas translated
  constructor
  · rcases Survey.meetAll_lags closed flat opened.demands (Routes.demands_sound made)
      (Survey.lags_refl components .empty) (Survey.finished_empty _) with
      ⟨next, final, changedRun, run, lags⟩
    refine ⟨final.plan, Outcome.map_eq_ok_iff.mpr ⟨final, run, rfl⟩, ?_⟩
    exact Outcome.map_eq_ok_iff.mpr ⟨next, changedRun, lags.plan⟩
  · intro item member parameter carried
    rcases Outcome.exists_left_of_forall₂ opened.items member with ⟨before, beforeMember, one⟩
    rcases Outcome.exists_left_of_forall₂ one.parameters carried with
      ⟨beforeParameter, beforeCarried, parameterOpened⟩
    have marked := Routes.isListValued_of_parameter made beforeMember beforeCarried
    have changedMark := Routes.isListValued_of_opened parameterOpened.type marked
    rwa [parameterOpened.rest]

/-- A record that leads back to itself through an alias, an array of itself, and a list whose
element has an alias. -/
def loopingSchemas : List (String × Schema) :=
  [("Node", .object [("children", .ref "Forest"), ("tags", .ref "Tags")] []),
    ("Forest", .array (.ref "Node")), ("Loop", .array (.ref "Loop")),
    ("Tags", .array (.ref "Tag")), ("Tag", .ref "Slug"),
    ("Slug", .primitive .string none [("maxLength", .int 8)])]

def loopingComponents : Components :=
  [("Node", .record [⟨"children", .ref "Forest", false⟩, ⟨"tags", .ref "Tags", false⟩]),
    ("Forest", .array (.ref "Node")), ("Loop", .array (.ref "Loop")),
    ("Tags", .array (.ref "Tag")), ("Tag", .ref "Slug"),
    ("Slug", .primitive ⟨.string, none, [.maxLength 8]⟩)]

/-- A search by tags that answers with a loop, or with nodes. -/
def loopingPaths : List (String × List Operation) :=
  [("/nodes", [⟨.get, none, [⟨"tag", .query, false, .ref "Tags"⟩], none,
    [("200", some (.array (.ref "Forest"))), ("404", some (.ref "Loop"))]⟩])]

/-- The routes of the search, with certain types. -/
def loopingRoutes (tags forests loop : TypeExpr) : Routes :=
  [("/nodes", ⟨"/nodes", [⟨.get, "/nodes", [], none, [⟨"tag", .query, false, tags, true⟩], none,
    [("200", some forests), ("404", some loop)]⟩]⟩)]

theorem planned_of_openedLoop :
    Components.ofSchemas loopingSchemas = .ok loopingComponents ∧
    Exists fun routes => Exists fun changed =>
      Routes.ofPaths loopingComponents loopingPaths = .ok routes ∧
      routes.Opened loopingComponents changed ∧
      (Exists fun plan => ofRoutes routes loopingComponents = .ok plan ∧
        ofRoutes changed loopingComponents = .ok plan) ∧
      forall item, item ∈ changed.items -> forall parameter, parameter ∈ item.parameters ->
        Routes.isListValued loopingComponents parameter.location parameter.type =
          .ok parameter.listValued := by
  have translated : Components.ofSchemas loopingSchemas = .ok loopingComponents := rfl
  have made : Routes.ofPaths loopingComponents loopingPaths =
      .ok (loopingRoutes (.ref "Tags") (.array (.ref "Forest")) (.ref "Loop")) := rfl
  have opened : (loopingRoutes (.ref "Tags") (.array (.ref "Forest")) (.ref "Loop")).Opened
      loopingComponents
      (loopingRoutes (.array (.ref "Tag")) (.array (.array (.ref "Node"))) (.array (.ref "Loop"))) := by
    have array {name : String} {element : TypeExpr}
        (found : loopingComponents.lookup name = some (.array element)) :
        (TypeExpr.ref name).Opened loopingComponents (.array element) :=
      .ref found (by simp)
    have tags := array (show loopingComponents.lookup "Tags" = _ from rfl)
    have forests := array (show loopingComponents.lookup "Forest" = _ from rfl)
    have loop := array (show loopingComponents.lookup "Loop" = _ from rfl)
    refine .cons ⟨rfl, rfl, .cons ⟨.cons ⟨tags, rfl⟩ .nil, .none, ?_, rfl⟩ .nil⟩ .nil
    exact .cons ⟨rfl, .some forests.array⟩ (.cons ⟨rfl, .some loop⟩ .nil)
  exact ⟨translated, _, _, made, opened, planned_of_opened translated made opened⟩

end DecoderPlan
end RouteIR
