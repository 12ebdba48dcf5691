import RouteIR.Proofs.Document.Reading

namespace RouteIR

/-!
# The schemas of a document

A schema that a document declares was read from a node of its tree.  The lemmas follow the
reader down from the document to the node, and carry along that every value on the way is
inside the tree.
-/

/-- The schemas that an operation declares, in the order parameters, body, responses. -/
def Operation.schemas (operation : Operation) : List Schema :=
  operation.parameters.map (·.schema) ++ operation.requestBody.toList ++
    operation.responses.filterMap (·.2)

/-- The schemas that a document declares. -/
def Document.schemas (document : Document) : List Schema :=
  document.components.map (·.2) ++ (document.paths.flatMap (·.2)).flatMap Operation.schemas

namespace Document

open Schema (ReadInside)

section Inside

variable {tree : Tree}

theorem readInside_of_node {location : String} {node : Tree} {schema : Schema}
    (within : tree.Holds node) (readOk : readSchema location node = .ok schema) :
    ReadInside tree schema :=
  ⟨node, within, (readSchema_eq_ok_iff _ _ _).mp readOk⟩

theorem readInside_of_parameter {location : String} {parameter : Tree}
    {declared : DeclaredParameter} (within : tree.Holds parameter)
    (readOk : readParameter location parameter = .ok declared) :
    ReadInside tree declared.schema := by
  rcases exists_parts_of_parameter location parameter with
    ⟨violation, refused⟩ | ⟨entries, label, name, place, required, node, rfl, parts⟩
  · rw [readOk] at refused
    cases refused
  · rw [readParameter_of_parts parts] at readOk
    rcases Outcome.map_eq_ok_iff.mp readOk with ⟨schema, schemaRead, rfl⟩
    exact readInside_of_node (within.lookup parts.schemaFound) schemaRead

theorem exists_entry_of_firstMedia? {media : List (Tree × Tree)} {mediaType node : Tree}
    (first : firstMedia? media = some (mediaType, node)) :
    Exists fun entry => entry ∈ media ∧ entry.1 = mediaType ∧
      Tree.lookup? "schema" entry.2.entries = some node := by
  induction media with
  | nil => cases first
  | cons entry rest ih =>
      have later (first : firstMedia? rest = some (mediaType, node)) :
          Exists fun other => other ∈ entry :: rest ∧ other.1 = mediaType ∧
            Tree.lookup? "schema" other.2.entries = some node := by
        rcases ih first with ⟨other, member, typed, found⟩
        exact ⟨other, List.mem_cons_of_mem _ member, typed, found⟩
      rcases entry with ⟨key, value⟩
      cases value with
      | map inner label =>
          rw [firstMedia?] at first
          split at first
          · next found =>
              cases first
              exact ⟨_, List.mem_cons_self, rfl, found⟩
          · exact later first
      | _ => exact later first

theorem CarriesSchema.holds {body node : Tree} (carries : CarriesSchema body node) :
    body.Holds node := by
  cases carries with
  | direct _ found => exact Tree.Holds.root.lookup found
  | @media entries media label mediaLabel _ _ _ _ content first =>
      rcases exists_entry_of_firstMedia? first with ⟨entry, member, _, found⟩
      have within : (Tree.map entries label).Holds (.map media mediaLabel) :=
        Tree.Holds.root.field content nofun
      exact (within.entry member).lookup found

theorem readInside_of_body {location : String} {body : Tree} {schema : Schema}
    (within : body ≠ .null -> tree.Holds body)
    (readOk : readBody location body = .ok (some schema)) : ReadInside tree schema := by
  rcases exists_carries_of_body location body with empty | ⟨violation, refused⟩ | ⟨node, carries⟩
  · rw [readOk] at empty
    cases empty
  · rw [readOk] at refused
    cases refused
  · rcases readBody_of_carries carries (not_hides_of_eq_ok readOk) location with ⟨place, same⟩
    rw [readOk] at same
    rcases Outcome.map_eq_ok_iff.mp same.symm with ⟨found, schemaRead, foundSame⟩
    cases foundSame
    have present : body ≠ .null := by
      rintro rfl
      cases carries
    exact readInside_of_node ((within present).trans carries.holds) schemaRead

theorem holds_of_listOf {location key : String} {outer : Tree} {items : List Tree}
    (within : tree.Holds outer) (found : listOf location (Tree.field key outer.entries) = .ok items)
    {item : Tree} (member : item ∈ items) : tree.Holds item := by
  cases declared : Tree.field key outer.entries with
  | list inner label =>
      rw [declared] at found
      cases found
      exact (within.field declared (by simp)).item member
  | null =>
      rw [declared] at found
      cases found
      cases member
  | _ =>
      rw [declared] at found
      cases found

theorem holds_of_responsesOf {location key : String} {outer : Tree}
    {entries : List (Tree × Tree)} (within : tree.Holds outer)
    (found : responsesOf location (Tree.field key outer.entries) = .ok entries)
    {entry : Tree × Tree} (member : entry ∈ entries) : tree.Holds entry.2 := by
  rw [responsesOf_eq_ok found] at member
  exact within.fieldEntry member

/-- The parameters of an operation are its own and those of its path, and the rest of its
schemas lie in its mapping. -/
theorem readInside_of_operation {method : Method} {location : String}
    {pathParameters : List Tree} {outer : Tree} {operation : Operation}
    (within : tree.Holds outer)
    (pathWithin : forall parameter, parameter ∈ pathParameters -> tree.Holds parameter)
    (readOk : readOperation method location pathParameters outer.entries = .ok operation)
    {schema : Schema} (member : schema ∈ operation.schemas) : ReadInside tree schema := by
  rw [readOperation] at readOk
  simp only [Outcome.bind_eq_ok_iff, Outcome.pure_eq_ok_iff] at readOk
  rcases readOk with ⟨declared, declaredFound, _, _, responseEntries, responsesFound, parameters,
    parametersRead, requestBody, bodyRead, responses, responsesRead, operationId, _, rfl⟩
  rw [readParameters_eq_mapM] at parametersRead
  rw [readResponses_eq_mapM] at responsesRead
  rw [Operation.schemas, List.mem_append, List.mem_append] at member
  rcases member with (ofParameter | ofBody) | ofResponse
  · rcases List.mem_map.mp ofParameter with ⟨parameter, parameterMember, rfl⟩
    rcases Outcome.exists_item_of_mapM parametersRead parameterMember with ⟨source, merged, one⟩
    refine readInside_of_parameter ?_ one
    rcases List.mem_append.mp merged with ofPath | own
    · exact pathWithin source (List.mem_of_mem_filter ofPath)
    · exact holds_of_listOf within declaredFound own
  · have carried : requestBody = some schema := Option.mem_toList.mp ofBody
    rw [carried] at bodyRead
    exact readInside_of_body (within.field rfl) bodyRead
  · rcases List.mem_filterMap.mp ofResponse with ⟨response, responseMember, carried⟩
    rcases Outcome.exists_item_of_mapM responsesRead (Keyed.mem_of_mem_ofList responseMember) with
      ⟨entry, entryMember, one⟩
    rcases Outcome.map_eq_ok_iff.mp one with ⟨found, bodyRead, rfl⟩
    dsimp only at carried
    rw [carried] at bodyRead
    exact readInside_of_body (fun _ => holds_of_responsesOf within responsesFound entryMember)
      (Tree.withText_eq_ok_iff.mp bodyRead).2

theorem readInside_of_path {entry : Tree × Tree} {path : String × List Operation}
    (within : tree.Holds entry.2) (readOk : readPath entry = .ok path) {operation : Operation}
    (member : operation ∈ path.2) {schema : Schema} (schemaMember : schema ∈ operation.schemas) :
    ReadInside tree schema := by
  rcases (readPath_eq_ok_iff entry path).mp readOk with ⟨_, entries, label, isMap, _, itemRead⟩
  rcases (readPathItem_eq_ok_iff _ _ _).mp itemRead with
    ⟨pathParameters, parametersFound, _, operationsRead⟩
  rcases (readOperations_eq_ok_iff _ _ _ _ _).mp operationsRead with ⟨_, _, _, allRead⟩
  rcases Outcome.exists_item_of_mapM allRead member with ⟨named, namedMember, one⟩
  rcases List.mem_filterMap.mp namedMember with ⟨inner, innerMember, isNamed⟩
  rcases Option.map_eq_some_iff.mp isNamed with ⟨method, _, rfl⟩
  rw [isMap] at within
  have operationWithin : tree.Holds inner.2 := within.entry innerMember
  rcases inner with ⟨key, value⟩
  cases value with
  | map innerEntries innerLabel =>
      refine readInside_of_operation operationWithin ?_ one schemaMember
      intro parameter parameterMember
      exact holds_of_listOf within parametersFound parameterMember
  | _ => cases one

end Inside

/-- Every schema that a document declares was read from a node inside its tree. -/
theorem readInside_of_schema {tree : Tree} {document : Document}
    (readOk : read tree = .ok document) {schema : Schema} (member : schema ∈ document.schemas) :
    ReadInside tree schema := by
  rcases (read_eq_ok_iff tree document).mp readOk with
    ⟨entries, label, rfl, _, componentsRead, pathsRead⟩
  have whole : (Tree.map entries label).Holds (.map entries label) := .root
  rw [schemas, List.mem_append] at member
  rcases member with ofComponent | ofPath
  · rcases List.mem_map.mp ofComponent with ⟨component, componentMember, rfl⟩
    rcases exists_pairs_of_components componentsRead with ⟨pairs, table, pairsRead⟩
    rw [table] at componentMember
    rcases Outcome.exists_left_of_forall₂ pairsRead (Keyed.mem_of_mem_ofList componentMember) with
      ⟨entry, entryMember, one⟩
    have components : (Tree.map entries label).Holds (Tree.field "components" entries) := by
      refine whole.field rfl ?_
      intro absent
      rw [absent] at entryMember
      cases entryMember
    exact ⟨entry.2, components.fieldEntry entryMember,
      ((readComponent_eq_ok_iff entry component).mp one).2.2⟩
  · rcases List.mem_flatMap.mp ofPath with ⟨operation, operationMember, schemaMember⟩
    rcases List.mem_flatMap.mp operationMember with ⟨path, pathMember, inPath⟩
    rcases (readPaths_eq_ok_iff _ _).mp pathsRead with
      ⟨pathEntries, pathsLabel, found, pairs, pairsRead, table⟩
    rw [table] at pathMember
    rcases Outcome.exists_left_of_forall₂ pairsRead (Keyed.mem_of_mem_ofList pathMember) with
      ⟨entry, entryMember, one⟩
    have paths : (Tree.map entries label).Holds (.map pathEntries pathsLabel) := whole.lookup found
    exact readInside_of_path (paths.entry entryMember) one inPath schemaMember

end Document
end RouteIR
