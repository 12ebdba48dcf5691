import RouteIR.Proofs.Document.Declaration
import RouteIR.Proofs.Interface.ClosedWorld

namespace RouteIR

/-!
# The routes of an interface are the declared operations

The entries of a path item are gone through twice, once by the reader and once when routes
are made, and keys that name no method lie among them.  Every pass keeps the order, so the
routes stand against the declarations one by one.  That no path is lost between the two needs
only that a mapping has no key twice.
-/

namespace Document

/-- The statuses of a declared operation are texts. -/
def Declaration.HasTextStatuses (declaration : Declaration) : Prop :=
  forall entry, entry ∈ (Tree.field "responses" declaration.entries).entries ->
    Exists fun status => entry.1 = .str status

/-- A response of a route stands under the status of its entry, and has a type exactly when
the entry carries a schema. -/
def AnswersTo (entry : Tree × Tree) (response : String × Option TypeExpr) : Prop :=
  entry.1 = .str response.1 ∧
    (response.2 = none ↔ ¬ Exists fun node => CarriesSchema entry.2 node)

/-- A route item as its declaration has it.  Statuses that are no texts may read alike, and
then not each has a response of its own. -/
structure Routed (declaration : Declaration) (item : RouteItem) : Prop where
  path : declaration.path = item.template
  method : declaration.method = item.method
  operationId : (Tree.field "operationId" declaration.entries).optionalText = .ok item.operationId
  responses : declaration.HasTextStatuses ->
    List.Forall₂ AnswersTo (Tree.field "responses" declaration.entries).entries item.responses

/-! ## From a declaration to its route -/

theorem optionalTypeOf_eq_none_iff {components : Components} {location : String}
    {schema : Option Schema} {type : Option TypeExpr}
    (made : Routes.optionalTypeOf components location schema = .ok type) :
    type = none ↔ schema = none := by
  cases schema with
  | none =>
      cases made
      simp
  | some schema =>
      rcases Outcome.map_eq_ok_iff.mp made with ⟨lowered, _, rfl⟩
      simp

/-- What an operation has of its declaration, its route has too. -/
theorem routed_of_declares {components : Components} {declaration : Declaration} {path : String}
    {operation : Operation} {item : RouteItem} (declares : Declares declaration path operation)
    (distinct : ((Tree.field "responses" declaration.entries).entries.map Tree.keyIdentity).Nodup)
    (itemOf : Routes.ItemOf components path operation item) : Routed declaration item := by
  refine ⟨?_, ?_, ?_, ?_⟩
  · rw [declares.path, itemOf.template]
  · rw [itemOf.method, declares.operation.method]
  · rw [itemOf.operationId]
    exact declares.operation.operationId
  · intro texts
    rcases declares.operation.responses with ⟨pairs, table, pairsRead⟩
    have keys : (Tree.field "responses" declaration.entries).entries.map (·.1.display) =
        Keyed.keys pairs :=
      Outcome.map_eq_map_of_forall₂ pairsRead fun _ _ one => one.1.symm
    have whole : operation.responses = pairs := by
      rw [table, Keyed.ofList_of_nodup]
      rw [← keys]
      exact Tree.nodup_texts distinct texts
    have lowered := itemOf.responses
    rw [whole] at lowered
    refine Outcome.forall₂_imp_of_mem (Outcome.forall₂_comp pairsRead lowered) ?_
    rintro entry member response ⟨pair, ⟨name, reads⟩, sameName, location, made⟩
    rcases texts entry member with ⟨status, isText⟩
    constructor
    · rw [sameName, name, isText, Tree.display]
    · rw [optionalTypeOf_eq_none_iff made, reads.eq_none_iff]

/-! ## Paths -/

section Paths

variable {tree : Tree} {pairs : List (String × List Operation)}

theorem distinct_paths (wellKeyed : tree.isWellKeyed = true) :
    ((pathEntries tree).map Tree.keyIdentity).Nodup :=
  Tree.nodup_keys_of_isWellKeyed (Tree.isWellKeyed_field wellKeyed "paths")

/-- No two declarations of a document share path and method. -/
theorem nodup_declarations (wellKeyed : tree.isWellKeyed = true)
    (pairsRead : List.Forall₂ (fun entry path => readPath entry = .ok path) (pathEntries tree)
      pairs) : ((declarations tree).map fun one => (one.path, one.method)).Nodup := by
  have paths := nodup_paths (distinct_paths wellKeyed) pairsRead
  rw [List.Nodup, List.pairwise_map] at paths
  rw [declarations, List.map_flatMap, List.nodup_flatMap]
  constructor
  · intro entry member
    rcases Outcome.exists_right_of_forall₂ pairsRead member with ⟨path, _, readOk⟩
    refine List.Nodup.of_map Prod.snd ?_
    rw [List.map_map]
    exact (declares_of_readPath readOk).1
  · refine paths.imp ?_
    intro first second differs key inFirst inSecond
    rcases List.mem_map.mp inFirst with ⟨one, oneMember, rfl⟩
    rcases List.mem_map.mp inSecond with ⟨other, otherMember, same⟩
    rcases List.mem_map.mp oneMember with ⟨_, _, rfl⟩
    rcases List.mem_map.mp otherMember with ⟨_, _, rfl⟩
    exact differs (Prod.mk.inj same).1.symm

theorem distinct_statuses (wellKeyed : tree.isWellKeyed = true) {entry : Tree × Tree}
    (member : entry ∈ pathEntries tree) {declaration : Declaration}
    (declared : declaration ∈ declarationsOf entry) :
    ((Tree.field "responses" declaration.entries).entries.map Tree.keyIdentity).Nodup := by
  rcases List.mem_map.mp declared with ⟨named, namedMember, rfl⟩
  rcases List.mem_filterMap.mp namedMember with ⟨inner, innerMember, isNamed⟩
  rcases Option.map_eq_some_iff.mp isNamed with ⟨method, _, rfl⟩
  have paths := Tree.isWellKeyed_field wellKeyed "paths"
  have item := Tree.isWellKeyed_of_entry paths member
  have operation := Tree.isWellKeyed_of_entry item innerMember
  exact Tree.nodup_keys_of_isWellKeyed (Tree.isWellKeyed_field operation "responses")

/-- The routes of the paths of a document stand against its declarations. -/
theorem routed_of_paths {components : Components} {routes : Routes}
    (wellKeyed : tree.isWellKeyed = true)
    (pairsRead : List.Forall₂ (fun entry path => readPath entry = .ok path) (pathEntries tree)
      pairs) (made : Routes.ofPaths components pairs = .ok routes) :
    List.Forall₂ Routed (declarations tree) routes.items := by
  rw [Routes.ofPaths_eq_mapM, Outcome.mapM_eq_ok_iff] at made
  have perPath : List.Forall₂
      (fun entry route => List.Forall₂ Routed (declarationsOf entry) route.2.items)
      (pathEntries tree) routes := by
    refine Outcome.forall₂_imp_of_mem (Outcome.forall₂_comp pairsRead made) ?_
    rintro entry member route ⟨path, readOk, pathMade⟩
    rcases Outcome.map_eq_ok_iff.mp pathMade with ⟨items, itemsMade, rfl⟩
    rw [Routes.itemsOf_eq_mapM, Outcome.mapM_eq_ok_iff] at itemsMade
    have declared := (declares_of_readPath readOk).2
    refine Outcome.forall₂_imp_of_mem (Outcome.forall₂_comp declared itemsMade) ?_
    rintro declaration declarationMember item ⟨operation, declares, itemMade⟩
    have itemOf := Routes.itemOf_of_eq_ok itemMade
    exact routed_of_declares declares (distinct_statuses wellKeyed member declarationMember) itemOf
  exact List.rel_flatMap perPath fun _ _ related => related

end Paths
end Document

namespace Interface

/-- No route is lost, invented or put elsewhere: the routes of an interface are the
declared operations in document order, each with the identifier and the responses that it
declares, and no two of them share path and method. -/
theorem routes_of_declarations {tree : Tree} {interface : Interface}
    (wellKeyed : tree.isWellKeyed = true) (made : ofTree tree = .ok interface) :
    interface.routes.items.map (fun item => (item.template, item.method)) =
        (Document.declarations tree).map (fun one => (one.path, one.method)) ∧
      (interface.routes.items.map fun item => (item.template, item.method)).Nodup ∧
      List.Forall₂ Document.Routed (Document.declarations tree) interface.routes.items := by
  rcases (ofTree_eq_ok_iff tree interface).mp made with ⟨document, readOk, _, aggregated, _⟩
  rcases Document.exists_pairs_of_paths readOk with ⟨pairs, table, pairsRead⟩
  have whole : document.paths = pairs := by
    rw [table, Keyed.ofList_of_nodup]
    rw [← Document.keys_of_paths pairsRead]
    exact Document.nodup_paths (Document.distinct_paths wellKeyed) pairsRead
  have routesMade := ofPaths_of_routesOf aggregated
  rw [whole] at routesMade
  have routed := Document.routed_of_paths wellKeyed pairsRead routesMade
  have inOrder : interface.routes.items.map (fun item => (item.template, item.method)) =
      (Document.declarations tree).map (fun one => (one.path, one.method)) := by
    refine (Outcome.map_eq_map_of_forall₂ routed ?_).symm
    intro declaration item one
    rw [one.path, one.method]
  refine ⟨inOrder, ?_, routed⟩
  rw [inOrder]
  exact Document.nodup_declarations wellKeyed pairsRead

/-- A document whose methods are written in either case, with other keys among them. -/
def methodsTree : Tree :=
  let text : Tree := .object [("type", .str "string")]
  .object [("paths", .object [
    ("/z", .object [("x-owner", .str "a"), ("PUT", .object [("operationId", .str "put"),
        ("responses", .object [("204", .object []), ("200", .object [("schema", text)])])]),
      ("parameters", .list [] none), ("get", .object [])]),
    ("/a", .object [("summary", .str "b"), ("Delete", .object [("responses", .null)])])])]

theorem routes_of_methodsTree : methodsTree.isWellKeyed = true ∧
    Exists fun interface => ofTree methodsTree = .ok interface ∧
      interface.routes.items.map (fun item => (item.template, item.method)) =
        [("/z", .put), ("/z", .get), ("/a", .delete)] ∧
      List.Forall₂ Document.Routed (Document.declarations methodsTree) interface.routes.items := by
  have wellKeyed : methodsTree.isWellKeyed = true := by decide +kernel
  have accepted : Exists fun interface => ofTree methodsTree = .ok interface :=
    Outcome.exists_of_isOk (by decide +kernel)
  rcases accepted with ⟨interface, made⟩
  rcases routes_of_declarations wellKeyed made with ⟨inOrder, _, routed⟩
  refine ⟨wellKeyed, interface, made, ?_, routed⟩
  rw [inOrder]
  decide +kernel

end Interface
end RouteIR
