import RouteIR.Proofs.Decoder.Demands
import RouteIR.Proofs.Route.Lowering

namespace RouteIR

/-!
# The plan holds what the routes need, and nothing else

Over settled components the plan of a set of routes exists.  It has a decoder for every
refined primitive and every set of literals that the routes lead to, and for every list
that a parameter is marked as.  It has no other decoder, and it has none twice.
-/

namespace Routes

/-- What a set of routes asks of a survey, in order. -/
def demands (routes : Routes) : List Survey.Demand := routes.items.flatMap RouteItem.demands

theorem parts_mem_demands_iff (routes : Routes) (type : TypeExpr) :
    .parts type ∈ routes.demands ↔ type ∈ routes.types := by
  have perParameter (parameter : Parameter) :
      .parts type ∈ parameter.demands ↔ type = parameter.type := by
    rw [Parameter.demands]
    split <;> simp
  have perItem (item : RouteItem) : .parts type ∈ item.demands ↔ type ∈ item.types := by
    simp only [RouteItem.demands, RouteItem.types, List.mem_append, List.mem_flatMap, perParameter,
      List.mem_map, Survey.Demand.parts.injEq, exists_eq_right', or_assoc, eq_comm]
  simp only [demands, types, List.mem_flatMap, perItem]

/-- A list is demanded for each parameter that is marked as one. -/
theorem list_mem_demands_iff (routes : Routes) (type : TypeExpr) :
    .list type ∈ routes.demands ↔
      Exists fun item => item ∈ routes.items ∧ Exists fun parameter =>
        parameter ∈ item.parameters ∧ parameter.listValued = true ∧ parameter.type = type := by
  have perParameter (parameter : Parameter) :
      .list type ∈ parameter.demands ↔ parameter.listValued = true ∧ parameter.type = type := by
    rw [Parameter.demands]
    split
    · next marked => simp [marked, eq_comm]
    · next unmarked => simp [unmarked]
  simp only [demands, RouteItem.demands, List.mem_flatMap, List.mem_append, perParameter,
    List.mem_map, reduceCtorEq, and_false, exists_false, or_false]

theorem type_mem_types_of_demand {routes : Routes} {demand : Survey.Demand}
    (member : demand ∈ routes.demands) : demand.type ∈ routes.types := by
  cases demand with
  | parts type => exact (routes.parts_mem_demands_iff type).mp member
  | list type =>
      rcases (routes.list_mem_demands_iff type).mp member with
        ⟨item, itemMember, parameter, parameterMember, _, rfl⟩
      refine List.mem_flatMap.mpr ⟨item, itemMember, ?_⟩
      rw [RouteItem.types, List.mem_append, List.mem_append]
      exact Or.inl (Or.inl (List.mem_map_of_mem parameterMember))

/-- The demands of routes that were made over components can be met. -/
theorem demands_sound {components : Components} {paths : List (String × List Operation)}
    {routes : Routes} (made : ofPaths components paths = .ok routes) (demand : Survey.Demand)
    (member : demand ∈ routes.demands) : demand.Sound components := by
  refine ⟨refersTo_of_types made (type_mem_types_of_demand member), ?_⟩
  rintro type rfl
  rcases (routes.list_mem_demands_iff type).mp member with
    ⟨item, itemMember, parameter, parameterMember, marked, rfl⟩
  rcases exists_operation_of_item made itemMember with ⟨path, _, operation, _, itemOf⟩
  exact itemOf.exists_listElement parameterMember marked

end Routes

namespace DecoderPlan

/-- A plan that holds exactly what a set of routes needs.  Primitives count as one when
their kinds are the same and their refinements are equal, numbers by their value. -/
structure Exact (components : Components) (routes : Routes) (plan : DecoderPlan) : Prop where
  /-- The checks are those of the refined primitives that the routes lead to. -/
  refined : forall key, key ∈ plan.refinedKeys ↔ Exists fun scalar =>
    components.Reaches routes.types (.primitive scalar) ∧ scalar.refinements ≠ [] ∧
      scalar.key = key
  /-- The enumerations are those that the routes lead to. -/
  enums : forall pairs, pairs ∈ plan.literalSets ↔ Exists fun values =>
    components.Reaches routes.types (.enum values) ∧ Literal.identities values = pairs
  /-- The lists are those of the parameters that are marked as lists. -/
  lists : forall key, key ∈ plan.listKeys ↔
    Exists fun item => item ∈ routes.items ∧ Exists fun parameter =>
      parameter ∈ item.parameters ∧ parameter.listValued = true ∧
        Exists fun element => components.resolve parameter.type = .ok (.array element) ∧
          Exists fun scalar => components.resolve element = .ok (.primitive scalar) ∧
            scalar.key = key
  distinct : plan.Distinct

/-- The plan of routes that were made over closed components exists, and a survey that
met all their demands has found it. -/
theorem exists_survey_of_routes {components : Components} (closed : components.Closed)
    {paths : List (String × List Operation)} {routes : Routes}
    (made : Routes.ofPaths components paths = .ok routes) :
    Exists fun final => ofRoutes routes components = .ok final.plan ∧
      Survey.Met components routes.demands .empty final ∧ final.plan.Distinct ∧
      final.plan.Serves (fun scalar => components.Reaches routes.types (.primitive scalar))
        (Survey.ListElement components routes.demands)
        (fun values => components.Reaches routes.types (.enum values)) := by
  rcases Survey.meetAll_met closed routes.demands .empty (Routes.demands_sound made) with
    ⟨final, run, met⟩
  refine ⟨final, ?_, met, ?_, ?_⟩
  · exact Outcome.map_eq_ok_iff.mpr ⟨final, run, rfl⟩
  · exact kept_distinct.ofRoutes distinct_empty (Outcome.map_eq_ok_iff.mpr ⟨final, run, rfl⟩)
  · apply Survey.meetAll_invariant (motive := fun survey => survey.plan.Serves
      (fun scalar => components.Reaches routes.types (.primitive scalar))
      (Survey.ListElement components routes.demands)
      (fun values => components.Reaches routes.types (.enum values))) _ serves_empty run
    exact Survey.meet_serves fun demand => Routes.type_mem_types_of_demand

section Surveyed

variable {components : Components} {routes : Routes} {final : Survey}

/-- Every list that a survey found is that of a parameter which is marked as a list. -/
theorem listKeys_iff_of_survey
    (met : Survey.Met components routes.demands .empty final)
    (serves : final.plan.Serves (fun scalar => components.Reaches routes.types (.primitive scalar))
      (Survey.ListElement components routes.demands)
      (fun values => components.Reaches routes.types (.enum values))) (key : Primitive.Key) :
    key ∈ final.plan.listKeys ↔
      Exists fun item => item ∈ routes.items ∧ Exists fun parameter =>
        parameter ∈ item.parameters ∧ parameter.listValued = true ∧
          Exists fun element => components.resolve parameter.type = .ok (.array element) ∧
            Exists fun scalar => components.resolve element = .ok (.primitive scalar) ∧
              scalar.key = key := by
  constructor
  · intro member
    rcases List.mem_map.mp member with ⟨decoder, decoderMember, rfl⟩
    rcases serves.lists decoder decoderMember with ⟨scalar, ⟨type, demanded, found⟩, same⟩
    rcases (routes.list_mem_demands_iff type).mp demanded with
      ⟨item, itemMember, parameter, parameterMember, marked, rfl⟩
    rcases (Components.listElement?_eq_some_iff _ _ _).mp found with
      ⟨element, resolved, elementResolved⟩
    refine ⟨item, itemMember, parameter, parameterMember, marked, element, resolved, scalar,
      elementResolved, ?_⟩
    rw [same]
    rfl
  · rintro ⟨item, itemMember, parameter, parameterMember, marked, element, resolved, scalar,
      elementResolved, rfl⟩
    apply met.lists parameter.type scalar
    · exact (routes.list_mem_demands_iff _).mpr
        ⟨item, itemMember, parameter, parameterMember, marked, rfl⟩
    · exact (Components.listElement?_eq_some_iff _ _ _).mpr ⟨element, resolved, elementResolved⟩

/-- A plan that was found by a survey which met all demands of some routes, and made nothing
that they do not lead to, is exact. -/
theorem exact_of_survey
    (met : Survey.Met components routes.demands .empty final) (distinct : final.plan.Distinct)
    (serves : final.plan.Serves (fun scalar => components.Reaches routes.types (.primitive scalar))
      (Survey.ListElement components routes.demands)
      (fun values => components.Reaches routes.types (.enum values))) :
    final.plan.Exact components routes := by
  have explored {type : TypeExpr} (reached : components.Reaches routes.types type) :
      Survey.Explored final type :=
    Survey.explored_of_reaches met
      (fun root => (routes.parts_mem_demands_iff root).mpr) reached
  refine ⟨?_, ?_, listKeys_iff_of_survey met serves, distinct⟩
  · intro key
    constructor
    · intro member
      rcases List.mem_map.mp member with ⟨decoder, decoderMember, rfl⟩
      rcases serves.refined decoder decoderMember with ⟨scalar, reached, refined, rfl⟩
      exact ⟨scalar, reached, refined, rfl⟩
    · rintro ⟨scalar, reached, refined, rfl⟩
      cases explored reached with
      | primitive planned => exact planned refined
  · intro pairs
    constructor
    · intro member
      rcases List.mem_map.mp member with ⟨decoder, decoderMember, rfl⟩
      rcases serves.enums decoder decoderMember with ⟨values, reached, rfl⟩
      exact ⟨values, reached, rfl⟩
    · rintro ⟨values, reached, rfl⟩
      cases explored reached with
      | enum planned => exact planned

end Surveyed

/-- A survey of routes never fails over closed components, and what it finds is exact. -/
theorem ofRoutes_exact {components : Components} (closed : components.Closed)
    {paths : List (String × List Operation)} {routes : Routes}
    (made : Routes.ofPaths components paths = .ok routes) :
    Exists fun plan => ofRoutes routes components = .ok plan ∧ plan.Exact components routes := by
  rcases exists_survey_of_routes closed made with ⟨final, planned, met, distinct, serves⟩
  exact ⟨final.plan, planned, exact_of_survey met distinct serves⟩

end DecoderPlan
end RouteIR
