import RouteIR.Proofs.Decoder.Completion
import RouteIR.Proofs.Document.ComponentOrder
import RouteIR.Proofs.Interface.Stages
import RouteIR.Proofs.Route.Lowering
import RouteIR.Proofs.TypeExpr.ComponentOrder

namespace RouteIR

/-!
# Interfaces with their components in another order

Routes and decoders ask of the components what types do: which names there are and what
stands under them.  A survey opens a component when a reference first names it, so the order
of decoders follows the routes and the references, however components refer to one another,
and has nothing to do with the order of the components.
-/

namespace Routes

variable {left right : Components}

theorem typeOf_reordered (reordered : left.Reordered right) (location : String)
    (schema : Schema) : typeOf left location schema = typeOf right location schema := by
  rw [typeOf, typeOf, reordered.ofSchema]

theorem optionalTypeOf_reordered (reordered : left.Reordered right) (location : String)
    (schema : Option Schema) :
    optionalTypeOf left location schema = optionalTypeOf right location schema := by
  cases schema with
  | none => rfl
  | some schema => rw [optionalTypeOf, optionalTypeOf, typeOf_reordered reordered]

theorem parameterOf_reordered (reordered : left.Reordered right) (location : String)
    (declared : DeclaredParameter) :
    parameterOf left location declared = parameterOf right location declared := by
  have marked (type : TypeExpr) :
      isListValued left declared.location type = isListValued right declared.location type := by
    cases declared.location <;>
      simp only [isListValued, Components.isPrimitiveList, reordered.listElement?]
  simp only [parameterOf, typeOf_reordered reordered, marked]

theorem responseOf_reordered (reordered : left.Reordered right) (location : String) :
    responseOf left location = responseOf right location := by
  funext declared
  rw [responseOf, responseOf, optionalTypeOf_reordered reordered]

theorem itemOf_reordered (reordered : left.Reordered right) (template : String) :
    itemOf left template = itemOf right template := by
  funext operation
  simp only [itemOf, parametersOf_eq_mapM, responsesOf_eq_mapM, parameterOf_reordered reordered,
    optionalTypeOf_reordered reordered, responseOf_reordered reordered]

theorem pathOf_reordered_components (reordered : left.Reordered right) :
    pathOf left = pathOf right := by
  funext path
  rw [pathOf, pathOf, itemsOf_eq_mapM, itemsOf_eq_mapM, itemOf_reordered reordered]

/-- Routes ask nothing of the components that depends on their order. -/
theorem ofPaths_components (reordered : left.Reordered right)
    (paths : List (String × List Operation)) : ofPaths left paths = ofPaths right paths := by
  rw [ofPaths_eq_mapM, ofPaths_eq_mapM, pathOf_reordered_components reordered]

end Routes

namespace Survey

variable {left right : Components}

theorem meet_reordered (reordered : left.Reordered right) (survey : Survey) (demand : Demand) :
    meet left survey demand = meet right survey demand := by
  cases demand with
  | parts type =>
      have anyType : right.Hereditary fun _ => True :=
        ⟨fun _ _ => trivial, fun _ _ _ _ => trivial, fun _ _ _ _ => trivial⟩
      exact explore_congr anyType (fun name _ => reordered.lookup name) [type] survey
        fun _ _ => trivial
  | list type => rw [meet, meet, DecoderPlan.withList, DecoderPlan.withList, reordered.listElement?]

theorem meetAll_reordered (reordered : left.Reordered right) (survey : Survey)
    (demands : List Demand) : meetAll left survey demands = meetAll right survey demands := by
  induction demands generalizing survey with
  | nil => rfl
  | cons demand rest ih => simp only [meetAll, meet_reordered reordered, ih]

end Survey

theorem DecoderPlan.ofRoutes_components {left right : Components}
    (reordered : left.Reordered right) (routes : Routes) :
    ofRoutes routes left = ofRoutes routes right := by
  rw [ofRoutes, ofRoutes, Survey.meetAll_reordered reordered]

namespace Interface

/-- Two interfaces that differ in the order of their components alone. -/
structure SameButOrder (left right : Interface) : Prop where
  components : left.components.Perm right.components
  types : forall name, left.components.lookup name = right.components.lookup name
  routes : left.routes = right.routes
  decoders : left.decoders = right.decoders

theorem ofTree_agree {tree other : Tree} (reordered : Document.ComponentsReordered tree other)
    (distinct : ((Document.schemaEntries tree).map (·.1.display)).Nodup) :
    Outcome.Agree SameButOrder (ofTree tree) (ofTree other) := by
  rw [ofTree, ofTree]
  apply (Document.read_componentsReordered reordered distinct).mapError.bind
  intro document changed same
  have lowered := Components.ofSchemas_reordered same.components same.distinct
  apply lowered.mapError.bind
  intro components others order
  rw [routesOf, routesOf, same.paths, Routes.ofPaths_components order]
  apply (Outcome.Agree.of_eq rfl).bind
  rintro routes _ rfl
  rw [DecoderPlan.forRoutes, DecoderPlan.ofRoutes_components order, ← DecoderPlan.forRoutes]
  apply (Outcome.Agree.of_eq rfl).bind
  rintro decoders _ rfl
  exact .ok ⟨order.order, order.lookup, rfl, rfl⟩

/-- Where the names of the components differ, their order decides neither whether a document
has an interface nor anything else in it than the order of its components. -/
theorem same_of_componentsReordered {tree other : Tree}
    (reordered : Document.ComponentsReordered tree other)
    (distinct : ((Document.schemaEntries tree).map (·.1.display)).Nodup) :
    (Outcome.Succeeds (ofTree tree) ↔ Outcome.Succeeds (ofTree other)) ∧
      forall left right, ofTree tree = .ok left -> ofTree other = .ok right ->
        left.SameButOrder right :=
  ⟨(ofTree_agree reordered distinct).succeeds_iff,
    fun _ _ leftMade rightMade => (ofTree_agree reordered distinct).values leftMade rightMade⟩

/-- A document with the given schemas, and with a list parameter that refers to one of them. -/
def componentsTree (schemas : List (String × Tree)) : Tree :=
  .object [
    ("components", .object [("schemas", .object schemas)]),
    ("paths", .object [("/nodes", .object [("get", .object [
      ("parameters", .list [.object [("name", .str "tag"), ("in", .str "query"),
        ("schema", .object [("$ref", .str "#/components/schemas/Tags")])]] none)])])])]

theorem reordered_componentsTree {schemas others : List (String × Tree)}
    (order : schemas.Perm others) :
    Document.ComponentsReordered (componentsTree schemas) (componentsTree others) := by
  refine @Tree.ChangedAt.map _ _ [] _ _ _ _ _ rfl ?_
  exact @Tree.ChangedAt.map _ _ [] _ _ _ _ _ rfl (.map (order.map _))

/-- A node with children of its own kind, and an alias of an array that is declared before
what it refers to. -/
def mutualSchemas : List (String × Tree) :=
  let reference (name : String) : Tree :=
    .object [("$ref", .str ("#/components/schemas/" ++ name))]
  let array (items : Tree) : Tree := .object [("type", .str "array"), ("items", items)]
  [("Tags", reference "Texts"),
    ("Node", .object [("type", .str "object"), ("properties", .object [
      ("children", array (reference "Node")), ("tags", reference "Tags")])]),
    ("Texts", array (reference "Text")),
    ("Text", .object [("type", .str "string"), ("maxLength", .int 8)])]

theorem same_of_mutualSchemas :
    ((Document.schemaEntries (componentsTree mutualSchemas)).map (·.1.display)).Nodup ∧
      Document.ComponentsReordered (componentsTree mutualSchemas)
        (componentsTree mutualSchemas.reverse) ∧
      Exists fun left => Exists fun right =>
        ofTree (componentsTree mutualSchemas) = .ok left ∧
        ofTree (componentsTree mutualSchemas.reverse) = .ok right ∧ left.SameButOrder right := by
  have distinct : ((Document.schemaEntries (componentsTree mutualSchemas)).map
      (·.1.display)).Nodup := by decide +kernel
  have reordered := reordered_componentsTree (List.reverse_perm mutualSchemas).symm
  have accepted : Outcome.Succeeds (ofTree (componentsTree mutualSchemas)) :=
    Outcome.exists_of_isOk (by decide +kernel)
  rcases same_of_componentsReordered reordered distinct with ⟨both, same⟩
  rcases accepted with ⟨left, leftMade⟩
  rcases both.mp ⟨left, leftMade⟩ with ⟨right, rightMade⟩
  exact ⟨distinct, reordered, left, right, leftMade, rightMade, same left right leftMade rightMade⟩

end Interface
end RouteIR
