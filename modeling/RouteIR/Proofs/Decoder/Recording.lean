import RouteIR.Proofs.Decoder.Exactness
import RouteIR.Proofs.Decoder.Unfolding

namespace RouteIR

/-!
# Plans and complete unfolding

A survey opens each component once, and it makes list decoders between one type and the next.
Neither shows in the checks and the enumerations of the plan: where types can be unfolded
completely, they are the first occurrences in the unfolding, in order.

What carries this over is that a component which is passed over has been explored to its end,
so the unfolding of it holds nothing new.  The components that are open at a time are
exceptions, but no type that is still to come within them leads to one of them.
-/

namespace Keyed

variable {α κ : Type} [DecidableEq κ] {key : α -> κ}

/-- The first item of a list under each key, in order. -/
def firsts (key : α -> κ) : List α -> List α
  | [] => []
  | item :: rest => item :: (firsts key rest).filter (key · ≠ key item)

theorem firsts_concat (items : List α) (last : α) :
    firsts key (items ++ [last]) =
      if key last ∈ items.map key then firsts key items else firsts key items ++ [last] := by
  induction items with
  | nil => rfl
  | cons item rest ih =>
      rw [List.cons_append, firsts, ih, firsts, List.map_cons]
      by_cases repeated : key last ∈ rest.map key
      · rw [if_pos repeated, if_pos (List.mem_cons_of_mem _ repeated)]
      · rw [if_neg repeated, List.filter_append]
        by_cases same : key last = key item
        · simp [same]
        · simp [same, repeated]

theorem mem_keys_firsts_iff (items : List α) (wanted : κ) :
    wanted ∈ (firsts key items).map key ↔ wanted ∈ items.map key := by
  induction items with
  | nil => rfl
  | cons item rest ih =>
      rw [firsts, List.map_cons, List.map_cons, List.mem_cons, List.mem_cons, ← ih]
      by_cases same : wanted = key item
      · simp [same]
      · simp only [same, false_or, List.mem_map, List.mem_filter, decide_eq_true_eq]
        constructor
        · rintro ⟨one, ⟨member, _⟩, rfl⟩
          exact ⟨one, member, rfl⟩
        · rintro ⟨one, member, rfl⟩
          exact ⟨one, ⟨member, same⟩, rfl⟩

end Keyed

namespace TypeExpr

/-- The refined primitive that a type is. -/
def refined? : TypeExpr -> Option Primitive
  | primitive scalar => if scalar.refinements = [] then none else some scalar
  | _ => none

/-- The literals of the enumeration that a type is. -/
def literals? : TypeExpr -> Option (List Literal)
  | enum values => some values
  | _ => none

end TypeExpr

/-! ## What a plan records -/

namespace DecoderPlan

/-- A plan with the checks and the enumerations that some leaves ask for, made at the first
leaf of each key, in order. -/
structure Records (plan : DecoderPlan) (leaves : List TypeExpr) : Prop where
  refined : plan.refinementDecoders =
    (Keyed.firsts Primitive.key (leaves.filterMap TypeExpr.refined?)).map fun scalar =>
      ⟨RefinementDecoder.nameFor scalar, scalar.withoutFormat⟩
  enums : plan.enumDecoders =
    (Keyed.firsts Literal.identities (leaves.filterMap TypeExpr.literals?)).map fun values =>
      ⟨EnumDecoder.nameFor values, values⟩

theorem records_empty : empty.Records [] := ⟨rfl, rfl⟩

namespace Records

variable {plan : DecoderPlan} {leaves : List TypeExpr}

theorem mem_refinedKeys_iff (records : plan.Records leaves) (key : Primitive.Key) :
    key ∈ plan.refinedKeys ↔ key ∈ (leaves.filterMap TypeExpr.refined?).map Primitive.key := by
  rw [refinedKeys, records.refined, List.map_map]
  exact Keyed.mem_keys_firsts_iff _ key

theorem mem_literalSets_iff (records : plan.Records leaves) (pairs : Finset Literal.Identity) :
    pairs ∈ plan.literalSets ↔
      pairs ∈ (leaves.filterMap TypeExpr.literals?).map Literal.identities := by
  rw [literalSets, records.enums, List.map_map]
  exact Keyed.mem_keys_firsts_iff _ pairs

theorem withPrimitive (records : plan.Records leaves) (scalar : Primitive) :
    (plan.withPrimitive scalar).Records (leaves ++ [.primitive scalar]) := by
  have enums : (plan.withPrimitive scalar).enumDecoders = _ :=
    (plan.enumDecoders_withPrimitive scalar).trans records.enums
  refine ⟨?_, by simpa [List.filterMap_cons, TypeExpr.literals?] using enums⟩
  rw [List.filterMap_append, DecoderPlan.withPrimitive]
  by_cases plain : scalar.refinements = []
  · simpa [List.filterMap_cons, TypeExpr.refined?, plain] using records.refined
  · have isRefined : [TypeExpr.primitive scalar].filterMap TypeExpr.refined? = [scalar] := by
      simp [TypeExpr.refined?, plain]
    rw [isRefined, Keyed.firsts_concat, if_neg (by simpa using plain),
      refinementDecoders_withRefined]
    simp only [records.mem_refinedKeys_iff]
    split
    · exact records.refined
    · rw [List.map_append, ← records.refined]
      rfl

theorem withEnum (records : plan.Records leaves) (values : List Literal) :
    (plan.withEnum values).Records (leaves ++ [.enum values]) := by
  have refined : (plan.withEnum values).refinementDecoders = _ :=
    (plan.refinementDecoders_withEnum values).trans records.refined
  refine ⟨by simpa [List.filterMap_cons, TypeExpr.refined?] using refined, ?_⟩
  have isEnum : [TypeExpr.enum values].filterMap TypeExpr.literals? = [values] := rfl
  rw [List.filterMap_append, isEnum, Keyed.firsts_concat, enumDecoders_withEnum]
  simp only [records.mem_literalSets_iff]
  split
  · exact records.enums
  · rw [List.map_append, ← records.enums]
    rfl

/-- A list decoder brings no check with it that the plan does not have. -/
theorem withListOf (records : plan.Records leaves) {element : Primitive}
    (planned : element.refinements ≠ [] -> element.key ∈ plan.refinedKeys) :
    (plan.withListOf element).Records leaves := by
  rw [withListOf_eq, withPrimitive_of_planned planned]
  split
  · exact records
  · exact ⟨records.refined, records.enums⟩

end Records
end DecoderPlan

namespace Survey

variable {components : Components}

/-- Leaves that are explored add nothing to a plan. -/
theorem records_of_explored {survey : Survey} {leaves more : List TypeExpr}
    (records : survey.plan.Records leaves)
    (explored : forall leaf, leaf ∈ more -> Explored survey leaf) :
    survey.plan.Records (leaves ++ more) := by
  induction more generalizing leaves with
  | nil => simpa using records
  | cons leaf more ih =>
      have one : survey.plan.Records (leaves ++ [leaf]) := by
        cases explored leaf List.mem_cons_self with
        | primitive planned =>
            rw [← DecoderPlan.withPrimitive_of_planned planned]
            exact records.withPrimitive _
        | enum planned =>
            rw [← DecoderPlan.withEnum_of_planned planned]
            exact records.withEnum _
        | array | ref | record =>
            exact ⟨by simpa [List.filterMap_cons, TypeExpr.refined?] using records.refined,
              by simpa [List.filterMap_cons, TypeExpr.literals?] using records.enums⟩
      simpa using ih one fun other member => explored other (List.mem_cons_of_mem _ member)

/-- Going through some types records certain leaves after those recorded before, if what was
visited before and the types lead to is finished. -/
def Tracks (components : Components) (types leaves : List TypeExpr) : Prop :=
  forall survey prior,
    Finished components (fun name => components.Reaches types (.ref name)) survey ->
    survey.plan.Records prior ->
    (explore components types survey).2 = none ∧
      (explore components types survey).1.plan.Records (prior ++ leaves)

theorem Tracks.append {left right leftLeaves rightLeaves : List TypeExpr}
    (first : Tracks components left leftLeaves) (second : Tracks components right rightLeaves) :
    Tracks components (left ++ right) (leftLeaves ++ rightLeaves) := by
  intro survey prior finished records
  have leftFinished := finished.mono fun name reached =>
    Components.Reaches.mono (fun root => List.mem_append_left right) reached
  have rightFinished := finished.mono fun name reached =>
    Components.Reaches.mono (fun root => List.mem_append_right left) reached
  rcases first survey prior leftFinished records with ⟨succeeded, between⟩
  have completed := explore_completed components left survey succeeded
  rw [explore_append succeeded, ← List.append_assoc]
  exact second _ _ (rightFinished.completed completed) between

theorem tracks_primitive (components : Components) (scalar : Primitive) :
    Tracks components [.primitive scalar] [.primitive scalar] := by
  intro survey prior _ records
  rw [explore, explore]
  exact ⟨rfl, records.withPrimitive scalar⟩

theorem tracks_enum (components : Components) (values : List Literal) :
    Tracks components [.enum values] [.enum values] := by
  intro survey prior _ records
  rw [explore, explore]
  exact ⟨rfl, records.withEnum values⟩

theorem Tracks.array {element : TypeExpr} {inner : List TypeExpr}
    (inside : Tracks components [element] inner) : Tracks components [.array element] inner := by
  intro survey prior finished records
  rw [explore]
  exact inside survey prior (finished.mono fun _ => .of_element) records

theorem Tracks.record {fields : List (Field TypeExpr)} {inner : List TypeExpr}
    (inside : Tracks components (fields.map (·.type)) inner) :
    Tracks components [.record fields] inner := by
  intro survey prior finished records
  rw [explore, List.append_nil]
  exact inside survey prior (finished.mono fun _ => .of_fields) records

/-- A component that was visited is finished, so its leaves are there.  One that is opened
does not lead back to itself, so nothing within it meets it while it is open. -/
theorem Tracks.ref (acyclic : components.Acyclic) {name : String} {target : TypeExpr}
    (found : components.lookup name = some target) {inner : List TypeExpr}
    (unfolds : components.Unfolds [target] inner) (inside : Tracks components [target] inner) :
    Tracks components [.ref name] inner := by
  intro survey prior finished records
  by_cases known : name ∈ survey.visited
  · rw [explore_visited known, explore]
    have explored := finished.target known (.root List.mem_cons_self) found
    refine ⟨rfl, records_of_explored records fun leaf member => ?_⟩
    refine Finished.explored (finished.mono fun _ => .of_target found) ?_ (unfolds.reaches member)
    exact List.forall_mem_singleton.mpr explored
  · rw [explore_opened known found]
    refine inside ⟨name :: survey.visited, survey.plan⟩ prior ?_ records
    intro other visited reached
    rcases List.mem_cons.mp visited with rfl | before
    · exact absurd reached (acyclic other target found)
    · rcases finished other before (reached.of_target found) with
        ⟨otherTarget, otherFound, explored⟩
      exact ⟨otherTarget, otherFound, explored.extend (extends_visit survey name)⟩

/-- A survey records the complete unfolding of its types. -/
theorem tracks_of_unfolds (acyclic : components.Acyclic) {types leaves : List TypeExpr}
    (unfolds : components.Unfolds types leaves) : Tracks components types leaves := by
  induction unfolds with
  | nil =>
      intro survey prior _ records
      rw [explore, List.append_nil]
      exact ⟨rfl, records⟩
  | @primitive scalar _ _ _ ih => exact (tracks_primitive components scalar).append ih
  | @enum values _ _ _ ih => exact (tracks_enum components values).append ih
  | array _ _ insideIh othersIh => exact insideIh.array.append othersIh
  | record _ _ insideIh othersIh => exact insideIh.record.append othersIh
  | ref found inside _ insideIh othersIh =>
      exact (Tracks.ref acyclic found inside insideIh).append othersIh

/-! ## Runs -/

/-- Meeting some demands records the unfolding of some types after what was recorded before,
and leaves everything finished that was visited. -/
def Follows (components : Components) (demands : List Demand) (types : List TypeExpr) : Prop :=
  forall leaves, components.Unfolds types leaves -> forall survey prior,
    Finished components (fun _ => True) survey -> survey.plan.Records prior ->
    Exists fun final => meetAll components survey demands = .ok final ∧
      Finished components (fun _ => True) final ∧ final.plan.Records (prior ++ leaves)

theorem follows_nil (components : Components) : Follows components [] [] := by
  intro leaves unfolds survey prior finished records
  cases unfolds
  exact ⟨survey, rfl, finished, by simpa using records⟩

theorem Follows.append {first second : List Demand} {left right : List TypeExpr}
    (earlier : Follows components first left) (later : Follows components second right) :
    Follows components (first ++ second) (left ++ right) := by
  intro leaves unfolds survey prior finished records
  rcases unfolds.split with ⟨leftLeaves, rightLeaves, leftUnfolds, rightUnfolds, rfl⟩
  rcases earlier _ leftUnfolds survey prior finished records with
    ⟨middle, firstRun, middleFinished, between⟩
  rcases later _ rightUnfolds middle _ middleFinished between with
    ⟨final, secondRun, finalFinished, recorded⟩
  refine ⟨final, ?_, finalFinished, by simpa using recorded⟩
  rw [meetAll_append, firstRun]
  exact secondRun

theorem Follows.flatMap {ι : Type} {demands : ι -> List Demand} {types : ι -> List TypeExpr}
    {items : List ι}
    (each : forall item, item ∈ items -> Follows components (demands item) (types item)) :
    Follows components (items.flatMap demands) (items.flatMap types) := by
  induction items with
  | nil => exact follows_nil components
  | cons item rest ih =>
      rw [List.flatMap_cons, List.flatMap_cons]
      exact (each item List.mem_cons_self).append
        (ih fun other member => each other (List.mem_cons_of_mem item member))

theorem follows_parts (acyclic : components.Acyclic) (type : TypeExpr) :
    Follows components [.parts type] [type] := by
  intro leaves unfolds survey prior finished records
  rcases tracks_of_unfolds acyclic unfolds survey prior (finished.mono fun _ _ => trivial) records
    with ⟨succeeded, recorded⟩
  have completed := explore_completed components [type] survey succeeded
  exact ⟨_, meetAll_parts succeeded [], finished.completed completed, recorded⟩

/-- When a list of primitives has been explored, the check of its elements is there. -/
theorem planned_of_listElement {survey : Survey} {type : TypeExpr} {element : Primitive}
    (finished : Finished components (fun _ => True) survey) (explored : Explored survey type)
    (found : components.listElement? type = .ok (some element)) :
    element.refinements ≠ [] -> element.key ∈ survey.plan.refinedKeys := by
  have reached : components.Reaches [type] (.primitive element) :=
    Components.Reaches.listElement (.root List.mem_cons_self) found
  cases Finished.explored (finished.mono fun _ _ => trivial)
    (List.forall_mem_singleton.mpr explored) reached with
  | primitive planned => exact planned

/-- The list decoder of a parameter is made after its type was explored, so it brings no check
with it. -/
theorem follows_parameter (acyclic : components.Acyclic) {parameter : Parameter}
    (listed : parameter.listValued = true -> Exists fun element =>
      components.listElement? parameter.type = .ok (some element)) :
    Follows components parameter.demands [parameter.type] := by
  rw [Parameter.demands]
  split
  · next marked =>
      intro leaves unfolds survey prior finished records
      rcases tracks_of_unfolds acyclic unfolds survey prior (finished.mono fun _ _ => trivial)
        records with ⟨succeeded, recorded⟩
      have completed := explore_completed components [parameter.type] survey succeeded
      generalize outcome : (explore components [parameter.type] survey).1 = middle
        at recorded completed
      have middleFinished := finished.completed completed
      rcases listed marked with ⟨element, found⟩
      have planned := planned_of_listElement middleFinished
        (completed.explored _ List.mem_cons_self) found
      refine ⟨⟨middle.visited, middle.plan.withListOf element⟩, ?_, ?_,
        recorded.withListOf planned⟩
      · rw [meetAll_parts succeeded, outcome, meetAll_list found]
        rfl
      · exact middleFinished.extend (extends_replan (middle.plan.extends_withListOf element)) rfl
  · exact follows_parts acyclic parameter.type

theorem follows_item (acyclic : components.Acyclic) {item : RouteItem}
    (listed : forall parameter, parameter ∈ item.parameters -> parameter.listValued = true ->
      Exists fun element => components.listElement? parameter.type = .ok (some element)) :
    Follows components item.demands item.types := by
  have one (types : List TypeExpr) : Follows components (types.map .parts) types := by
    have each : Follows components (types.flatMap fun type => [.parts type])
        (types.flatMap fun type => [type]) := .flatMap fun type _ => follows_parts acyclic type
    rwa [List.flatMap_singleton', ← List.map_eq_flatMap] at each
  have parameters : Follows components (item.parameters.flatMap Parameter.demands)
      (item.parameters.map (·.type)) := by
    rw [List.map_eq_flatMap]
    exact .flatMap fun parameter member => follows_parameter acyclic (listed parameter member)
  rw [RouteItem.demands, RouteItem.types, List.append_assoc]
  exact parameters.append (one _)

end Survey

namespace DecoderPlan

/-- Over closed components without a cycle the types of routes have one complete unfolding,
and the checks and the enumerations of the plan are its first occurrences, in order. -/
theorem records_unfolding {components : Components} (closed : components.Closed)
    (acyclic : components.Acyclic) {paths : List (String × List Operation)} {routes : Routes}
    (made : Routes.ofPaths components paths = .ok routes) :
    Exists fun leaves => Exists fun plan => components.Unfolds routes.types leaves ∧
      (forall others, components.Unfolds routes.types others -> others = leaves) ∧
      ofRoutes routes components = .ok plan ∧ plan.Records leaves := by
  have refers (type : TypeExpr) (member : type ∈ routes.types) : type.RefersTo components :=
    Routes.refersTo_of_types made member
  rcases Components.exists_unfolds closed acyclic routes.types [] refers
    (fun name member => absurd member List.not_mem_nil) with ⟨leaves, unfolds⟩
  have follows : Survey.Follows components routes.demands routes.types := by
    refine Survey.Follows.flatMap fun item member => Survey.follows_item acyclic ?_
    intro parameter parameterMember marked
    rcases Routes.exists_operation_of_item made member with ⟨path, _, operation, _, itemOf⟩
    exact itemOf.exists_listElement parameterMember marked
  rcases follows leaves unfolds .empty [] (Survey.finished_empty _) records_empty with
    ⟨final, run, _, records⟩
  refine ⟨leaves, final.plan, unfolds, fun _ => unfolds.unique, ?_, records⟩
  exact Outcome.map_eq_ok_iff.mpr ⟨final, run, rfl⟩

/-- An alias of a refined primitive, a list of it, and a record that needs both. -/
def sharedComponents : Components :=
  [("Slug", .primitive ⟨.string, some "slug", [.maxLength 8]⟩), ("Tag", .ref "Slug"),
    ("Tags", .array (.ref "Tag")),
    ("Item", .record [⟨"state", .enum [.str "open", .str "done"], true⟩,
      ⟨"tags", .ref "Tags", true⟩, ⟨"owner", .ref "Slug", false⟩])]

/-- Routes that meet the shared components several times, and a list before them. -/
def sharedPaths : List (String × List Operation) :=
  [("/items", [⟨.get, none, [⟨"tag", .query, false, .ref "Tags"⟩,
      ⟨"state", .query, false, .enum [.str "done", .str "open"]⟩], none,
      [("200", some (.array (.ref "Item")))]⟩]),
    ("/tags", [⟨.post, none, [], some (.ref "Tag"), [("200", some (.ref "Tags"))]⟩])]

theorem closed_sharedComponents : sharedComponents.Closed := by
  intro component member
  simp only [sharedComponents, List.mem_cons, List.not_mem_nil, or_false] at member
  rcases member with rfl | rfl | rfl | rfl <;>
    simp [TypeExpr.RefersTo, TypeExpr.names, TypeExpr.fieldNames, sharedComponents]

theorem acyclic_sharedComponents : sharedComponents.Acyclic := by
  apply Components.acyclic_of_rank (Keyed.keys sharedComponents).idxOf
  decide

theorem records_unfolding_of_sharedPaths :
    sharedComponents.Closed ∧ sharedComponents.Acyclic ∧ Exists fun routes =>
      Routes.ofPaths sharedComponents sharedPaths = .ok routes ∧
      Exists fun leaves => Exists fun plan => sharedComponents.Unfolds routes.types leaves ∧
        (forall others, sharedComponents.Unfolds routes.types others -> others = leaves) ∧
        ofRoutes routes sharedComponents = .ok plan ∧ plan.Records leaves := by
  have made : Exists fun routes => Routes.ofPaths sharedComponents sharedPaths = .ok routes :=
    ⟨_, rfl⟩
  rcases made with ⟨routes, made⟩
  refine ⟨closed_sharedComponents, acyclic_sharedComponents, routes, made, ?_⟩
  exact records_unfolding closed_sharedComponents acyclic_sharedComponents made

end DecoderPlan
end RouteIR
