import RouteIR.Proofs.Interface.ClosedWorld
import RouteIR.Proofs.TypeExpr.WellFormed

namespace RouteIR

/-!
# Well-formed interfaces

Reading leaves no literal twice, lowering makes well-formed types, routes carry types
without records, and planning makes decoders of what the routes lead to.  Each stage keeps
what the stages before it established, so every interface is well-formed as a whole.
-/

/-- The format plays no part. -/
theorem Primitive.WellFormed.withoutFormat {scalar : Primitive} (wellFormed : scalar.WellFormed) :
    scalar.withoutFormat.WellFormed :=
  ⟨wellFormed.canonical, wellFormed.textOnly, wellFormed.numbersOnly, wellFormed.booleanPlain⟩

namespace DecoderPlan

/-- Decoders of well-formed primitives and literals.  Those that check refinements have
some to check, and no format. -/
structure WellFormed (plan : DecoderPlan) : Prop where
  refined : forall decoder, decoder ∈ plan.refinementDecoders ->
    decoder.primitive.WellFormed ∧ decoder.primitive.format = none ∧
      decoder.primitive.refinements ≠ []
  lists : forall decoder, decoder ∈ plan.listDecoders -> decoder.element.WellFormed
  enums : forall decoder, decoder ∈ plan.enumDecoders -> Literal.WellFormed decoder.values

/-- A plan that serves well-formed types is well-formed. -/
theorem Serves.wellFormed {plan : DecoderPlan} {scalars elements : Primitive -> Prop}
    {literals : List Literal -> Prop} (serves : plan.Serves scalars elements literals)
    (scalarsFormed : forall scalar, scalars scalar -> scalar.WellFormed)
    (elementsFormed : forall element, elements element -> element.WellFormed)
    (literalsFormed : forall values, literals values -> Literal.WellFormed values) :
    plan.WellFormed := by
  refine ⟨?_, ?_, ?_⟩
  · intro decoder member
    rcases serves.refined decoder member with ⟨scalar, wanted, refined, rfl⟩
    exact ⟨(scalarsFormed scalar wanted).withoutFormat, rfl, refined⟩
  · intro decoder member
    rcases serves.lists decoder member with ⟨element, wanted, same⟩
    rw [same]
    exact (elementsFormed element wanted).withoutFormat
  · intro decoder member
    rcases serves.enums decoder member with ⟨values, wanted, rfl⟩
    exact literalsFormed values wanted

end DecoderPlan

namespace Interface

/-- Records stand at the top of components only, and all primitives, enumerations and
decoders are well-formed. -/
structure WellFormed (interface : Interface) : Prop where
  components : interface.components.WellFormed
  routes : forall type, type ∈ interface.routes.types -> type.Inline
  decoders : interface.decoders.WellFormed

theorem wellFormed_of_componentsOf {tree : Tree} {document : Document} {components : Components}
    (readOk : Document.read tree = .ok document)
    (typed : componentsOf document = .ok components) : components.WellFormed := by
  have made := Components.forall₂_of_ofSchemas (Outcome.mapError_eq_ok_iff.mp typed)
  intro component member
  rcases Outcome.exists_left_of_forall₂ made member with ⟨declared, declaredMember, componentOf⟩
  have inDocument : declared.2 ∈ document.schemas :=
    List.mem_append_left _ (List.mem_map_of_mem declaredMember)
  rcases Document.readInside_of_schema readOk inDocument with ⟨node, _, schemaRead⟩
  exact (TypeExpr.wellFormed_of_lowered schemaRead componentOf.lowered).1

theorem inline_of_routesOf {tree : Tree} {document : Document} {components : Components}
    {routes : Routes} (readOk : Document.read tree = .ok document)
    (aggregated : routesOf components document = .ok routes) {type : TypeExpr}
    (member : type ∈ routes.types) : type.Inline := by
  rcases List.mem_flatMap.mp member with ⟨item, itemMember, typeMember⟩
  rcases Routes.exists_operation_of_item (ofPaths_of_routesOf aggregated) itemMember with
    ⟨path, pathMember, operation, operationMember, itemOf⟩
  rcases itemOf.exists_schema typeMember with ⟨schema, schemaMember, location, lowered⟩
  have inDocument : schema ∈ document.schemas := by
    refine List.mem_append_right _ (List.mem_flatMap.mpr ⟨operation, ?_, schemaMember⟩)
    exact List.mem_flatMap.mpr ⟨path, pathMember, operationMember⟩
  rcases Document.readInside_of_schema readOk inDocument with ⟨node, _, schemaRead⟩
  have lowered := Outcome.mapError_eq_ok_iff.mp lowered
  exact (TypeExpr.wellFormed_of_lowered schemaRead lowered).2 (by decide)

/-- Every interface that a document tree has is well-formed. -/
theorem wellFormed_of_ofTree {tree : Tree} {interface : Interface}
    (made : ofTree tree = .ok interface) : interface.WellFormed := by
  rcases (ofTree_eq_ok_iff tree interface).mp made with
    ⟨document, readOk, typed, aggregated, planned, _⟩
  have components := wellFormed_of_componentsOf readOk typed
  have routes {type : TypeExpr} (member : type ∈ interface.routes.types) : type.Inline :=
    inline_of_routesOf readOk aggregated member
  have reached {type : TypeExpr}
      (reaches : interface.components.Reaches interface.routes.types type) : type.WellFormed :=
    reaches.of_hereditary components.hereditary fun root member => .inline (routes member)
  rcases DecoderPlan.exists_survey_of_routes (settled_of_componentsOf typed).closed
    (ofPaths_of_routesOf aggregated) with ⟨final, finalPlanned, _, _, serves⟩
  have same : interface.decoders = final.plan := Except.ok.inj (planned.symm.trans finalPlanned)
  refine ⟨components, fun type => routes, ?_⟩
  rw [same]
  refine serves.wellFormed ?_ ?_ ?_
  · exact fun scalar reaches => (reached reaches).primitive
  · rintro element ⟨type, demanded, found⟩
    have root : interface.components.Reaches interface.routes.types type :=
      .root (Routes.type_mem_types_of_demand demanded)
    rcases (Components.listElement?_eq_some_iff _ _ _).mp found with
      ⟨array, resolved, elementResolved⟩
    exact (reached ((root.resolve resolved).element.resolve elementResolved)).primitive
  · exact fun values reaches => (reached reaches).enum

/-- A document that repeats a literal and declares its refinements out of order. -/
def refinedTree : Tree :=
  let object (entries : List (String × Tree)) : Tree :=
    .map (entries.map fun entry => (.str entry.1, entry.2)) none
  let code := object [("type", .str "string"), ("pattern", .str "^[a-z]+$"),
    ("maxLength", .int 8), ("minLength", .int 2), ("format", .str "slug")]
  let level := object [("enum", .list [.int 1, .bool true, .int 1, .str "1"] none)]
  let share := object [("type", .str "number"), ("maximum", .int 1), ("minimum", .int 0)]
  object [
    ("components", object [("schemas", object [
      ("Entry", object [("type", .str "object"), ("properties", object [
        ("code", code), ("level", level), ("shares", object [("type", .str "array"),
          ("items", share)])])])])]),
    ("paths", object [("/entries", object [("get", object [
      ("parameters", .list [object [("name", .str "code"), ("in", .str "query"),
        ("schema", object [("type", .str "array"), ("items", code)])]] none),
      ("responses", object [("200", object [("schema",
        object [("$ref", .str "#/components/schemas/Entry")])])])])])])]

theorem wellFormed_of_refinedTree :
    Exists fun interface => ofTree refinedTree = .ok interface ∧ interface.WellFormed := by
  have accepted : Exists fun interface => ofTree refinedTree = .ok interface :=
    Outcome.exists_of_isOk (by decide +kernel)
  rcases accepted with ⟨interface, made⟩
  exact ⟨interface, made, wellFormed_of_ofTree made⟩

end Interface
end RouteIR
