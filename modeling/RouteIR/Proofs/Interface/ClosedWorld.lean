import RouteIR.Proofs.Decoder.Legibility
import RouteIR.Proofs.Interface.Stages
import RouteIR.Proofs.TypeExpr.Components

namespace RouteIR
namespace Interface

/-!
# A closed world

Membership of names is checked when schemas are lowered, and aliases are checked once for
all components.  Routes and plans look names up without a check of their own.  No such
look-up can fail: every reference in an interface names a component, every type in it
resolves, and after the routes are made the plan is made too, unless an integer that has no
text would be part of a name.
-/

/-- The types that an interface shows: those of its components, its routes and its
decoders. -/
def types (interface : Interface) : List TypeExpr :=
  interface.components.map (·.2) ++ interface.routes.types ++
    interface.decoders.refinementDecoders.map (.primitive ·.primitive) ++
    interface.decoders.listDecoders.map (.array <| .primitive ·.element)

theorem settled_of_componentsOf {document : Document} {components : Components}
    (typed : componentsOf document = .ok components) : components.Settled :=
  Components.settled_of_ofSchemas (Outcome.mapError_eq_ok_iff.mp typed)

theorem ofPaths_of_routesOf {document : Document} {components : Components} {routes : Routes}
    (aggregated : routesOf components document = .ok routes) :
    Routes.ofPaths components document.paths = .ok routes :=
  Outcome.mapError_eq_ok_iff.mp aggregated

/-- Planning never fails once the routes are made. -/
theorem exists_plan_of_routesOf {document : Document} {components : Components} {routes : Routes}
    (typed : componentsOf document = .ok components)
    (aggregated : routesOf components document = .ok routes) :
    Exists fun plan => DecoderPlan.ofRoutes routes components = .ok plan := by
  rcases DecoderPlan.exists_survey_of_routes (settled_of_componentsOf typed).closed
    (ofPaths_of_routesOf aggregated) with ⟨final, planned, _⟩
  exact ⟨final.plan, planned⟩

theorem refersTo_of_types {tree : Tree} {interface : Interface}
    (made : ofTree tree = .ok interface) {type : TypeExpr} (member : type ∈ interface.types) :
    type.RefersTo interface.components := by
  rcases (ofTree_eq_ok_iff tree interface).mp made with ⟨document, _, typed, aggregated, _⟩
  rw [types, List.mem_append, List.mem_append, List.mem_append] at member
  rcases member with ((ofComponent | ofRoute) | ofCheck) | ofList
  · rcases List.mem_map.mp ofComponent with ⟨component, componentMember, rfl⟩
    exact (settled_of_componentsOf typed).closed component componentMember
  · exact Routes.refersTo_of_types (ofPaths_of_routesOf aggregated) ofRoute
  · rcases List.mem_map.mp ofCheck with ⟨decoder, _, rfl⟩
    intro name named
    simp [TypeExpr.names] at named
  · rcases List.mem_map.mp ofList with ⟨decoder, _, rfl⟩
    intro name named
    simp [TypeExpr.names] at named

/-- A document with a cyclic component, an alias and a list in a query. -/
def cyclicTree : Tree :=
  let object (entries : List (String × Tree)) : Tree :=
    .map (entries.map fun entry => (.str entry.1, entry.2)) none
  let reference (name : String) : Tree := object [("$ref", .str ("#/components/schemas/" ++ name))]
  object [
    ("components", object [("schemas", object [
      ("Node", object [("type", .str "object"), ("properties", object [
        ("children", object [("type", .str "array"), ("items", reference "Node")]),
        ("tags", reference "Tags")])]),
      ("Tags", object [("type", .str "array"), ("items", reference "Tag")]),
      ("Tag", object [("type", .str "string"), ("maxLength", .int 8)])])]),
    ("paths", object [("/nodes", object [("get", object [
      ("parameters", .list [object [("name", .str "tag"), ("in", .str "query"),
        ("schema", reference "Tags")]] none),
      ("responses", object [("200", object [("schema", reference "Node")])])])])])]

theorem exists_interface_of_cyclicTree :
    Exists fun interface => ofTree cyclicTree = .ok interface :=
  Outcome.exists_of_isOk (by decide +kernel)

/-- A document whose one operation answers with a single literal. -/
def answerTree (literal : Int) : Tree :=
  .object [("paths", .object [("/a", .object [("get", .object [("responses",
    .object [("200", .object [("schema",
      .object [("enum", .list [.int literal] none)])])])])])])]

end Interface
end RouteIR
