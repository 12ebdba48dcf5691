import RouteIR.Proofs.Document.Parameters
import RouteIR.Proofs.Interface.ClosedWorld
import RouteIR.Proofs.Route.Template

namespace RouteIR

/-!
# Path parameters and placeholders

The placeholders of a template are found in its text, each once.  The parameters that travel
in the path come from two lists of the document, and only after these are merged and made are
their names held against the placeholders.  What passes has each placeholder as exactly one
parameter, which is required; what does not pass is refused before anything else of the
operation is looked at.
-/

open Outcome (Succeeds)

/-- The names of the parameters of an operation that travel in the path. -/
def Operation.pathNames (operation : Operation) : List String :=
  (operation.parameters.filter (·.location = .path)).map (·.name)

namespace Routes

/-! ## The check of names -/

/-- A name for which placeholders and parameters do not match, and why.  Parameters without a
placeholder count only where all placeholders have parameters. -/
inductive Mismatch (placeholders declared : List String) : String -> Inconsistency -> Prop
  | undeclared {name : String} (found : name ∈ placeholders) (missing : name ∉ declared) :
      Mismatch placeholders declared name .undeclaredPathParameter
  | unplaced {name : String} (all : forall other, other ∈ placeholders -> other ∈ declared)
      (found : name ∈ declared) (missing : name ∉ placeholders) :
      Mismatch placeholders declared name .pathParameterNotInTemplate

/-- The check passes for lists of the same names, and otherwise names a mismatch. -/
theorem checkPathNames_cases (location : String) (placeholders declared : List String) :
    (checkPathNames location placeholders declared = .ok () ∧
      forall name, name ∈ placeholders ↔ name ∈ declared) ∨
    Exists fun name => Exists fun reason => Mismatch placeholders declared name reason ∧
      checkPathNames location placeholders declared =
        .error ⟨location ++ "." ++ name, .invalid reason⟩ := by
  rw [checkPathNames]
  split
  · next name found =>
      have missing : name ∉ declared := by simpa using List.find?_some found
      exact Or.inr ⟨name, _, .undeclared (List.mem_of_find?_eq_some found) missing, rfl⟩
  · next allDeclared =>
      have all : forall other, other ∈ placeholders -> other ∈ declared := by
        simpa using List.find?_eq_none.mp allDeclared
      split
      · next name found =>
          have missing : name ∉ placeholders := by simpa using List.find?_some found
          exact Or.inr ⟨name, _, .unplaced all (List.mem_of_find?_eq_some found) missing, rfl⟩
      · next allPlaced =>
          have back : forall other, other ∈ declared -> other ∈ placeholders := by
            simpa using List.find?_eq_none.mp allPlaced
          exact Or.inl ⟨rfl, fun name => ⟨all name, back name⟩⟩

/-! ## Parameters of an item -/

/-- The names among parameters that travel in the path, by name and place alone. -/
def namesInPath (keys : List (String × ParameterLocation)) : List String :=
  (keys.filter (·.2 = .path)).map (·.1)

theorem pathNames_eq (parameters : List Parameter) :
    pathNames parameters = namesInPath (parameters.map fun one => (one.name, one.location)) := by
  rw [pathNames, namesInPath, List.filter_map, List.map_map]
  rfl

theorem operation_pathNames_eq (operation : Operation) :
    operation.pathNames =
      namesInPath (operation.parameters.map fun one => (one.name, one.location)) := by
  rw [Operation.pathNames, namesInPath, List.filter_map, List.map_map]
  rfl

/-- Making parameters changes neither name nor place. -/
theorem keys_of_parameterOf {components : Components} {declared : List DeclaredParameter}
    {parameters : List Parameter}
    (made : List.Forall₂ (fun declared parameter => Exists fun location =>
      parameterOf components location declared = .ok parameter) declared parameters) :
    declared.map (fun one => (one.name, one.location)) =
      parameters.map fun one => (one.name, one.location) := by
  apply Outcome.map_eq_map_of_forall₂ made
  intro one parameter madeOne
  rcases madeOne with ⟨location, parameterMade⟩
  rcases parameterOf_eq_ok_iff.mp parameterMade with ⟨type, listValued, _, _, rfl⟩
  rfl

/-- Where names resolve, a parameter is made as soon as its schema has a type. -/
theorem parameterOf_succeeds {components : Components} (settled : components.Settled)
    {declared : DeclaredParameter}
    (lowers : Succeeds (TypeExpr.ofSchema (Keyed.keys components) .route declared.schema))
    (location : String) : Succeeds (parameterOf components location declared) := by
  rcases lowers with ⟨type, lowered⟩
  have made : typeOf components (location ++ ".schema") declared.schema = .ok type :=
    Outcome.mapError_eq_ok_iff.mpr lowered
  have marked : Succeeds (isListValued components declared.location type) := by
    rw [isListValued.eq_def]
    split
    · rcases settled.exists_listElement? (refersTo_of_typeOf made) with ⟨element, found⟩
      refine ⟨element.isSome, ?_⟩
      rw [Components.isPrimitiveList, found]
      rfl
    · exact ⟨false, rfl⟩
    · exact ⟨false, rfl⟩
  rcases marked with ⟨listValued, marked⟩
  exact ⟨_, parameterOf_eq_ok_iff.mpr ⟨type, listValued, made, marked, rfl⟩⟩

theorem parametersOf_succeeds {components : Components} (settled : components.Settled)
    {declared : List DeclaredParameter}
    (lowers : forall one, one ∈ declared ->
      Succeeds (TypeExpr.ofSchema (Keyed.keys components) .route one.schema))
    (location : String) : Succeeds (parametersOf components location declared) := by
  induction declared with
  | nil => exact ⟨[], rfl⟩
  | cons one rest ih =>
      rw [List.forall_mem_cons] at lowers
      rcases parameterOf_succeeds settled lowers.1 (location ++ "." ++ one.name) with
        ⟨parameter, made⟩
      rcases ih lowers.2 with ⟨parameters, restMade⟩
      refine ⟨parameter :: parameters, ?_⟩
      rw [parametersOf, made, restMade]
      rfl

theorem forall₂_of_parametersOf {components : Components} {location : String}
    {declared : List DeclaredParameter} {parameters : List Parameter}
    (made : parametersOf components location declared = .ok parameters) :
    List.Forall₂ (fun declared parameter => Exists fun location =>
      parameterOf components location declared = .ok parameter) declared parameters := by
  rw [parametersOf_eq_mapM, Outcome.mapM_eq_ok_iff] at made
  exact made.imp fun _ _ one => ⟨_, one⟩

/-- In an item that was made the names match. -/
theorem names_match_of_itemOf {components : Components} {template : String}
    {operation : Operation} {item : RouteItem}
    (made : itemOf components template operation = .ok item) (name : String) :
    name ∈ Template.placeholders template ↔ name ∈ pathNames item.parameters := by
  rw [itemOf] at made
  simp only [Outcome.bind_eq_ok_iff, Outcome.pure_eq_ok_iff] at made
  rcases made with ⟨parameters, _, _, checked, _, _, _, _, rfl⟩
  rcases checkPathNames_cases ("paths." ++ template ++ "." ++ operation.method.text ++
      ".parameters") (Template.placeholders template) (pathNames parameters) with
    ⟨_, same⟩ | ⟨_, _, _, refused⟩
  · exact same name
  · rw [checked] at refused
    cases refused

/-- An operation whose parameters can be made, and whose names do not match, has no item. -/
theorem itemOf_of_mismatch {components : Components} {template : String} {operation : Operation}
    (parameters : forall location,
      Succeeds (parametersOf components location operation.parameters))
    (differ : ¬ forall name, name ∈ Template.placeholders template ↔ name ∈ operation.pathNames) :
    Exists fun name => Exists fun reason =>
      Mismatch (Template.placeholders template) operation.pathNames name reason ∧
      itemOf components template operation = .error ⟨"paths." ++ template ++ "." ++
        operation.method.text ++ ".parameters" ++ "." ++ name, .invalid reason⟩ := by
  rcases parameters ("paths." ++ template ++ "." ++ operation.method.text ++ ".parameters") with
    ⟨made, parametersMade⟩
  have same : pathNames made = operation.pathNames := by
    rw [pathNames_eq, operation_pathNames_eq,
      keys_of_parameterOf (forall₂_of_parametersOf parametersMade)]
  rcases checkPathNames_cases ("paths." ++ template ++ "." ++ operation.method.text ++
      ".parameters") (Template.placeholders template) operation.pathNames with
    ⟨_, agree⟩ | ⟨name, reason, mismatch, refused⟩
  · exact absurd agree differ
  · refine ⟨name, reason, mismatch, ?_⟩
    rw [← same] at refused
    simp only [itemOf, parametersMade]
    apply Outcome.bind_eq_error_iff.mpr
    exact Or.inr ⟨made, rfl, Outcome.bind_eq_error_iff.mpr (Or.inl refused)⟩

/-! ## The operation that aggregation comes to -/

/-- Aggregation comes to an operation of a path: the paths before it have routes, and so have
the operations of its path that are declared before. -/
inductive ComesTo (components : Components) : List (String × List Operation) -> String ->
    Operation -> Prop
  | intro {before after : List (String × List Operation)} {template : String}
      {earlier later : List Operation} {operation : Operation}
      (paths : forall path, path ∈ before -> Succeeds (pathOf components path))
      (operations : forall other, other ∈ earlier ->
        Succeeds (itemOf components template other)) :
      ComesTo components (before ++ (template, earlier ++ operation :: later) :: after) template
        operation

/-- Aggregation ends at the first operation that has no item. -/
theorem ComesTo.ofPaths_eq_error {components : Components}
    {paths : List (String × List Operation)} {template : String} {operation : Operation}
    (comesTo : ComesTo components paths template operation) {violation : Violation}
    (refused : itemOf components template operation = .error violation) :
    ofPaths components paths = .error violation := by
  rcases comesTo with ⟨pathsBefore, operationsBefore⟩
  rw [ofPaths_eq_mapM, Outcome.mapM_eq_error_iff]
  refine ⟨_, _, _, rfl, pathsBefore, ?_⟩
  dsimp only
  rw [pathOf, Outcome.map_eq_error_iff, itemsOf_eq_mapM, Outcome.mapM_eq_error_iff]
  exact ⟨_, _, _, rfl, operationsBefore, refused⟩

end Routes

/-! ## Items -/

/-- The parameters of an item that travel in its path are the placeholders of its template,
each of them one required parameter. -/
structure RouteItem.MatchesTemplate (item : RouteItem) : Prop where
  placeholders : item.pathParameters = Template.placeholders item.template
  distinct : item.pathParameters.Nodup
  permuted : (Routes.pathNames item.parameters).Perm item.pathParameters
  once : forall name, name ∈ item.pathParameters -> Exists fun parameter =>
    item.parameters.filter (fun one => (one.name, one.location) = (name, .path)) = [parameter] ∧
      parameter.required = true

namespace Interface

section Items

variable {components : Components} {template : String} {operation : Operation} {item : RouteItem}

/-- An item whose operation declares no parameter twice, and requires those that travel in the
path, matches its template. -/
theorem matchesTemplate_of_itemOf
    (distinct : (operation.parameters.map fun one => (one.name, one.location)).Nodup)
    (required : forall declared, declared ∈ operation.parameters -> declared.location = .path ->
      declared.required = true)
    (made : Routes.itemOf components template operation = .ok item) : item.MatchesTemplate := by
  have itemOf := Routes.itemOf_of_eq_ok made
  have sameKeys := Routes.keys_of_parameterOf itemOf.parameters
  rw [sameKeys] at distinct
  have sameNames := Routes.names_match_of_itemOf made
  rw [← itemOf.placeholders] at sameNames
  have namesOnce : (Routes.pathNames item.parameters).Nodup := by
    rw [Routes.pathNames_eq, Routes.namesInPath]
    apply List.Nodup.map_on _ (distinct.filter _)
    intro one oneMember other otherMember same
    have onePlace : one.2 = .path := by simpa using (List.mem_filter.mp oneMember).2
    have otherPlace : other.2 = .path := by simpa using (List.mem_filter.mp otherMember).2
    exact Prod.ext same (onePlace.trans otherPlace.symm)
  have placeholdersOnce : item.pathParameters.Nodup := by
    rw [itemOf.placeholders]
    exact Template.nodup_placeholders template
  refine ⟨?_, placeholdersOnce, ?_, ?_⟩
  · rw [itemOf.placeholders, itemOf.template]
  · apply (List.perm_ext_iff_of_nodup namesOnce placeholdersOnce).mpr
    exact fun name => (sameNames name).symm
  · intro name member
    rcases List.mem_map.mp ((sameNames name).mp member) with ⟨carrier, inPath, rfl⟩
    rcases List.mem_filter.mp inPath with ⟨carrierMember, isPath⟩
    have known : (carrier.name, ParameterLocation.path) ∈
        item.parameters.map fun one => (one.name, one.location) := by
      apply List.mem_map.mpr
      exact ⟨carrier, carrierMember, by rw [of_decide_eq_true isPath]⟩
    rcases Keyed.exists_filter_eq_singleton distinct known with ⟨parameter, once⟩
    refine ⟨parameter, once, ?_⟩
    have kept : parameter ∈ [parameter] := List.mem_singleton_self parameter
    rw [← once] at kept
    rcases List.mem_filter.mp kept with ⟨parameterMember, isKey⟩
    rcases itemOf.exists_declared parameterMember with ⟨declared, declaredMember, _, madeOne⟩
    rcases Routes.parameterOf_eq_ok_iff.mp madeOne with ⟨type, listValued, _, _, rfl⟩
    exact required declared declaredMember (Prod.mk.inj (of_decide_eq_true isKey)).2

end Items

theorem matchesTemplate_of_item {tree : Tree} {interface : Interface}
    (made : ofTree tree = .ok interface) {item : RouteItem}
    (member : item ∈ interface.routes.items) : item.MatchesTemplate := by
  rcases (ofTree_eq_ok_iff tree interface).mp made with ⟨document, readOk, _, aggregated, _⟩
  have routesMade := ofPaths_of_routesOf aggregated
  rw [Routes.ofPaths_eq_mapM] at routesMade
  rcases List.mem_flatMap.mp member with ⟨route, routeMember, itemMember⟩
  rcases Outcome.exists_item_of_mapM routesMade routeMember with ⟨path, pathMember, pathMade⟩
  rcases Outcome.map_eq_ok_iff.mp pathMade with ⟨items, itemsMade, rfl⟩
  rw [Routes.itemsOf_eq_mapM] at itemsMade
  rcases Outcome.exists_item_of_mapM itemsMade itemMember with
    ⟨operation, operationMember, itemMade⟩
  rcases Document.exists_pairs_of_paths readOk with ⟨pairs, table, pairsRead⟩
  rw [table] at pathMember
  rcases Outcome.exists_left_of_forall₂ pairsRead (Keyed.mem_of_mem_ofList pathMember) with
    ⟨entry, _, pathRead⟩
  rcases Outcome.exists_left_of_forall₂ (Document.pathMerged_of_readPath pathRead).operations
    operationMember with ⟨declaration, _, merged⟩
  apply matchesTemplate_of_itemOf merged.parameters.distinct _ itemMade
  intro declared declaredMember inPath
  rcases Outcome.exists_left_of_forall₂ merged.parameters.inOrder declaredMember with
    ⟨_, _, declaredBy⟩
  exact declaredBy.required inPath

/-- Every item of an interface matches its template.  Where aggregation comes to an operation
whose parameters have types, and whose placeholders and path parameters are not the same names,
the document is refused for one of these names. -/
theorem pathParameters_exact :
    (forall tree interface, ofTree tree = .ok interface -> forall item,
      item ∈ interface.routes.items -> item.MatchesTemplate) ∧
    forall document components, componentsOf document = .ok components ->
      forall template operation, Routes.ComesTo components document.paths template operation ->
        (forall declared, declared ∈ operation.parameters ->
          Succeeds (TypeExpr.ofSchema (Keyed.keys components) .route declared.schema)) ->
        (Exists fun name => ¬ (name ∈ Template.placeholders template ↔
          name ∈ operation.pathNames)) ->
        Exists fun name => Exists fun reason =>
          Routes.Mismatch (Template.placeholders template) operation.pathNames name reason ∧
          routesOf components document = .error (.rule ⟨"paths." ++ template ++ "." ++
            operation.method.text ++ ".parameters" ++ "." ++ name, .invalid reason⟩) := by
  refine ⟨fun tree interface made item member => matchesTemplate_of_item made member, ?_⟩
  intro document components typed template operation comesTo lowers differ
  have settled := settled_of_componentsOf typed
  rcases Routes.itemOf_of_mismatch (Routes.parametersOf_succeeds settled lowers)
    (not_forall.mpr differ) with ⟨name, reason, mismatch, refused⟩
  refine ⟨name, reason, mismatch, ?_⟩
  rw [routesOf, comesTo.ofPaths_eq_error refused]
  cases mismatch with
  | undeclared => rfl
  | unplaced => rfl

/-- A path with a placeholder twice, one parameter of the path, one of the operation, and a
query of the same name. -/
def ordersTree : Tree :=
  let parameter (name place : String) : Tree := .object [("name", .str name),
    ("in", .str place), ("schema", .object [("type", .str "string")])]
  .object [("paths", .object [("/users/{id}/orders/{order}/of/{id}", .object [
    ("parameters", .list [parameter "id" "query", parameter "order" "path"] none),
    ("get", .object [("parameters", .list [parameter "id" "path"] none)])])])]

/-- Two operations of a path, of which the second spells the name of the placeholder in
another way. -/
def respelledDocument : Document :=
  let parameter (name : String) : DeclaredParameter :=
    ⟨name, .path, true, .primitive .string none []⟩
  ⟨[], [("/users/{id}", [⟨.put, none, [parameter "id"], none, []⟩,
    ⟨.get, none, [parameter "ID"], none, []⟩])]⟩

/-- The placeholder that stands twice is one parameter, beside the query of its name.  A
placeholder without a parameter of its own spelling is refused. -/
theorem pathParameters_exact_of_ordersTree :
    (Exists fun interface => ofTree ordersTree = .ok interface ∧
      interface.routes.items.map (·.pathParameters) = [["id", "order"]] ∧
      forall item, item ∈ interface.routes.items -> item.MatchesTemplate) ∧
    Exists fun name => Exists fun reason =>
      Routes.Mismatch (Template.placeholders "/users/{id}") ["ID"] name reason ∧
      routesOf [] respelledDocument = .error (.rule ⟨"paths." ++ "/users/{id}" ++ "." ++
        Method.get.text ++ ".parameters" ++ "." ++ name, .invalid reason⟩) := by
  constructor
  · have accepted : Exists fun interface => ofTree ordersTree = .ok interface :=
      Outcome.exists_of_isOk (by decide +kernel)
    rcases accepted with ⟨interface, made⟩
    have names : interface.routes.items.map (·.pathParameters) = [["id", "order"]] :=
      Outcome.part_eq_of_computed made (·.routes.items.map (·.pathParameters)) (by decide +kernel)
    exact ⟨interface, made, names, pathParameters_exact.1 ordersTree interface made⟩
  · have comesTo : Routes.ComesTo [] respelledDocument.paths "/users/{id}"
        ⟨.get, none, [⟨"ID", .path, true, .primitive .string none []⟩], none, []⟩ := by
      refine @Routes.ComesTo.intro [] [] [] _ [_] [] _ ?_ ?_
      · simp
      · intro other member
        rw [List.mem_singleton.mp member]
        exact Outcome.exists_of_isOk (by decide +kernel)
    apply pathParameters_exact.2 respelledDocument [] rfl "/users/{id}" _ comesTo
    · intro declared member
      rw [List.mem_singleton.mp member]
      exact Outcome.exists_of_isOk (by decide +kernel)
    · exact ⟨"id", by decide +kernel⟩

end Interface
end RouteIR
