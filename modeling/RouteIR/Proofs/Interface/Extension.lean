import RouteIR.Proofs.Interface.ClosedWorld

namespace RouteIR

/-!
# More routes

A survey goes through routes in order and never takes back a decoder that it has made.  When
routes follow those of an interface, the plan of all of them begins with the plan of the
interface: each decoder has the same name, the same content and the same place.
-/

theorem Routes.demands_append (routes more : Routes) :
    Routes.demands (routes ++ more) = routes.demands ++ more.demands := by
  rw [Routes.demands, Routes.items, List.flatMap_append, List.flatMap_append]
  rfl

/-- Routes made over closed components extend what a survey of other routes has found. -/
theorem DecoderPlan.extends_of_append {components : Components} (closed : components.Closed)
    {routes more : Routes} {plan : DecoderPlan}
    (planned : ofRoutes routes components = .ok plan) {paths : List (String × List Operation)}
    (made : Routes.ofPaths components paths = .ok more) :
    Exists fun longer => ofRoutes (routes ++ more) components = .ok longer ∧
      longer.Extends plan := by
  rcases Outcome.map_eq_ok_iff.mp planned with ⟨survey, run, rfl⟩
  rcases Survey.meetAll_met closed more.demands survey (Routes.demands_sound made) with
    ⟨final, later, met⟩
  refine ⟨final.plan, Outcome.map_eq_ok_iff.mpr ⟨final, ?_, rfl⟩, met.growth.plan⟩
  have whole : Survey.meetAll components .empty (Routes.demands (routes ++ more)) = .ok final := by
    rw [Routes.demands_append, Survey.meetAll_append]
    exact Outcome.bind_eq_ok_iff.mpr ⟨survey, run, later⟩
  exact whole

namespace Interface

/-- Whatever routes over the same components follow the routes of an interface, the plan of all
of them exists and begins, in each kind of decoder, with the plan of the interface. -/
theorem extends_of_more_routes {tree : Tree} {interface : Interface}
    (made : ofTree tree = .ok interface) {paths : List (String × List Operation)} {more : Routes}
    (aggregated : Routes.ofPaths interface.components paths = .ok more) :
    Exists fun plan =>
      DecoderPlan.ofRoutes (interface.routes ++ more) interface.components = .ok plan ∧
        plan.Extends interface.decoders := by
  rcases (ofTree_eq_ok_iff tree interface).mp made with ⟨document, _, typed, _, planned, _⟩
  exact DecoderPlan.extends_of_append (settled_of_componentsOf typed).closed planned aggregated

/-- A search that takes a list of numbers, and a list of tags like the routes before it. -/
def searchPaths : List (String × List Operation) :=
  [("/search", [⟨.get, none, [⟨"tag", .query, false, .ref "Tags"⟩,
    ⟨"size", .query, false, .array (.primitive .integer none [("minimum", .int 0)])⟩], none,
    [("200", some (.array (.ref "Node")))]⟩])]

theorem extends_of_searchPaths :
    Exists fun interface => Exists fun more => Exists fun plan =>
      ofTree cyclicTree = .ok interface ∧
      Routes.ofPaths interface.components searchPaths = .ok more ∧
      DecoderPlan.ofRoutes (interface.routes ++ more) interface.components = .ok plan ∧
      plan.Extends interface.decoders := by
  rcases exists_interface_of_cyclicTree with ⟨interface, made⟩
  have accepted : (Routes.ofPaths interface.components searchPaths).isOk = true :=
    Outcome.part_eq_of_computed made
      (fun interface => (Routes.ofPaths interface.components searchPaths).isOk) (by decide +kernel)
  rcases Outcome.exists_of_isOk accepted with ⟨more, aggregated⟩
  rcases extends_of_more_routes made aggregated with ⟨plan, planned, growth⟩
  exact ⟨interface, more, plan, made, aggregated, planned, growth⟩

end Interface
end RouteIR
