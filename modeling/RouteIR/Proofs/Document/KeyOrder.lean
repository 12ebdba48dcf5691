import RouteIR.Proofs.Document.Reordering
import RouteIR.Proofs.Outcome.Agreement
import RouteIR.Proofs.Schema.KeyOrder

namespace RouteIR

/-!
# Documents with their keys in another order

Reading a document looks up the members of its root, of its components, of operations, of
parameters and of schemas, and goes through everything else in order.  A document whose keys
are reordered in the former is therefore read just when the document is, with every
list and every table in the same order, and with schemas that are lowered alike.
-/

/-- Two declared parameters that differ in a schema that is lowered alike. -/
structure DeclaredParameter.Alike (left right : DeclaredParameter) : Prop where
  name : left.name = right.name
  location : left.location = right.location
  required : left.required = right.required
  schema : left.schema.LoweredAlike right.schema

/-- Two operations whose schemas are lowered alike. -/
structure Operation.Alike (left right : Operation) : Prop where
  method : left.method = right.method
  operationId : left.operationId = right.operationId
  parameters : List.Forall₂ DeclaredParameter.Alike left.parameters right.parameters
  requestBody : Option.Rel Schema.LoweredAlike left.requestBody right.requestBody
  responses : Keyed.Related (Option.Rel Schema.LoweredAlike) left.responses right.responses

/-- Two documents whose schemas are lowered alike. -/
structure Document.Alike (left right : Document) : Prop where
  components : Keyed.Related Schema.LoweredAlike left.components right.components
  paths : Keyed.Related (List.Forall₂ Operation.Alike) left.paths right.paths

namespace Document

open RouteIR.Tree

theorem readSchema_keysReordered {node other : Tree} (location : String)
    (reordered : KeysReordered (some .schema) node other) :
    Outcome.Agree Schema.LoweredAlike (readSchema location node) (readSchema location other) :=
  (Schema.read_keysReordered reordered).mapError

/-! ## Parameters -/

section Parameters

variable {entries others : List (Tree × Tree)}

theorem parameterKey_keysReordered (reordered : EntriesReordered .parameter entries others) :
    parameterKey entries = parameterKey others := by
  have name : Tree.field "name" entries = Tree.field "name" others :=
    reordered.field_eq _ (by decide)
  have place : Tree.field "in" entries = Tree.field "in" others := reordered.field_eq _ (by decide)
  rw [parameterKey, parameterKey, name, place]

/-- The parts of a parameter are those of any other mapping with the same values under the
keys of a parameter, and with a schema of its own. -/
theorem ParameterParts.congr {name : String} {place : ParameterLocation} {required : Bool}
    {node changed : Tree} (parts : ParameterParts entries name place required node)
    (same : forall key, key ∈ ["$ref", "name", "in", "required"] ->
      lookup? key others = lookup? key entries)
    (schema : lookup? "schema" others = some changed) :
    ParameterParts others name place required changed := by
  refine ⟨?_, ?_, parts.nameFilled, ?_, schema, ?_⟩
  · rw [same "$ref" (by decide)]
    exact parts.plain
  · rw [field, same "name" (by decide)]
    exact parts.nameFound
  · rw [field, same "in" (by decide)]
    exact parts.placeFound
  · rw [same "required" (by decide)]
    exact parts.requiredFound

theorem lookup?_parameterKeys (reordered : EntriesReordered .parameter entries others)
    {key : String} (fixed : key ∈ ["$ref", "name", "in", "required"]) :
    lookup? key others = lookup? key entries := by
  refine (reordered.lookup?_eq _ ?_).symm
  revert key
  decide

/-- A parameter has its parts in any order of its keys. -/
theorem parts_keysReordered (reordered : EntriesReordered .parameter entries others)
    {name : String} {place : ParameterLocation} {required : Bool} {node : Tree}
    (parts : ParameterParts entries name place required node) :
    Exists fun changed => ParameterParts others name place required changed ∧
      KeysReordered (some .schema) node changed := by
  rcases reordered.foundAlike "schema" with ⟨absent, _⟩ | ⟨_, changed, found, otherFound, values⟩
  · rw [parts.schemaFound] at absent
    cases absent
  · rw [parts.schemaFound] at found
    cases found
    exact ⟨changed, parts.congr (fun _ => lookup?_parameterKeys reordered) otherFound, values⟩

theorem parts_of_keysReordered (reordered : EntriesReordered .parameter entries others)
    {name : String} {place : ParameterLocation} {required : Bool} {changed : Tree}
    (parts : ParameterParts others name place required changed) :
    Exists fun node => ParameterParts entries name place required node := by
  rcases reordered.foundAlike "schema" with ⟨_, missing⟩ | ⟨node, _, found, _, _⟩
  · rw [parts.schemaFound] at missing
    cases missing
  · exact ⟨node, parts.congr (fun _ fixed => (lookup?_parameterKeys reordered fixed).symm) found⟩

theorem readParameter_entries (reordered : EntriesReordered .parameter entries others)
    (location : String) (label otherLabel : Option Label) :
    Outcome.Agree DeclaredParameter.Alike (readParameter location (.map entries label))
      (readParameter location (.map others otherLabel)) := by
  by_cases complete : Exists fun name => Exists fun place => Exists fun required =>
      Exists fun node => ParameterParts entries name place required node
  · rcases complete with ⟨name, place, required, node, parts⟩
    rcases parts_keysReordered reordered parts with ⟨changed, otherParts, nodes⟩
    rw [readParameter_of_parts parts, readParameter_of_parts otherParts]
    apply (readSchema_keysReordered _ nodes).map
    exact fun _ _ alike => ⟨rfl, rfl, rfl, alike⟩
  · rcases exists_parts_of_parameter location (.map entries label) with
      ⟨_, refused⟩ | ⟨_, _, name, place, required, node, ⟨⟩, parts⟩
    · rcases exists_parts_of_parameter location (.map others otherLabel) with
        ⟨_, otherRefused⟩ | ⟨_, _, name, place, required, changed, ⟨⟩, parts⟩
      · rw [refused, otherRefused]
        exact .error _ _
      · rcases parts_of_keysReordered reordered parts with ⟨node, parts⟩
        exact absurd ⟨name, place, required, node, parts⟩ complete
    · exact absurd ⟨name, place, required, node, parts⟩ complete

end Parameters

theorem readParameter_keysReordered {parameter other : Tree} (location : String)
    (reordered : KeysReordered (some .parameter) parameter other) :
    Outcome.Agree DeclaredParameter.Alike (readParameter location parameter)
      (readParameter location other) := by
  cases reordered.view (by decide) with
  | map related => exact readParameter_entries related location _ _
  | leaf notMap =>
      rcases exists_parts_of_parameter location parameter with
        ⟨_, refused⟩ | ⟨entries, label, _, _, _, _, isMap, _⟩
      · rw [refused]
        exact .error _ _
      · exact absurd isMap (notMap entries label)

/-! ## Lists of parameters -/

theorem listOf_keysReordered {declared other : Tree} (location : String)
    (reordered : KeysReordered (some .parameters) declared other) :
    Outcome.Agree (List.Forall₂ (KeysReordered (some .parameter))) (listOf location declared)
      (listOf location other) := by
  cases reordered with
  | same =>
      apply Outcome.Agree.refl
      intro items
      rw [List.forall₂_same]
      exact fun item _ => .same _ item
  | map => exact .error _ _
  | list count items => exact .ok (List.forall₂_iff_zip.mpr ⟨count, fun pair => items _ _ pair⟩)

section Merging

variable {parameters others : List Tree}

theorem checkUnique_keysReordered
    (related : List.Forall₂ (KeysReordered (some .parameter)) parameters others)
    (location : String) (seen : List (Identity × Identity)) :
    checkUnique location seen parameters = checkUnique location seen others := by
  induction related generalizing seen with
  | nil => rfl
  | @cons parameter _ _ _ first _ ih =>
      cases first.view (by decide) with
      | map entries =>
          have key := parameterKey_keysReordered entries
          have name := entries.field_eq "name" (by decide)
          simp only [checkUnique, key, name, ih]
      | leaf _ => cases parameter <;> simp only [checkUnique, ih]

theorem parameterKeys_keysReordered
    (related : List.Forall₂ (KeysReordered (some .parameter)) parameters others) :
    parameterKeys parameters = parameterKeys others := by
  induction related with
  | nil => rfl
  | cons first _ ih =>
      rw [parameterKeys, parameterKeys] at ih ⊢
      rw [List.filterMap_cons, List.filterMap_cons, ih]
      cases first.view (by decide) with
      | map entries =>
          dsimp only
          rw [parameterKey_keysReordered entries]
      | leaf _ => rfl

theorem isOverridden_keysReordered {parameter other : Tree}
    (reordered : KeysReordered (some .parameter) parameter other)
    (keys : List (Identity × Identity)) : isOverridden keys parameter = isOverridden keys other := by
  cases reordered.view (by decide) with
  | map entries => rw [isOverridden, isOverridden, parameterKey_keysReordered entries]
  | leaf _ => rfl

theorem mergeParameters_keysReordered {pathParameters changed : List Tree}
    (outer : List.Forall₂ (KeysReordered (some .parameter)) pathParameters changed)
    (inner : List.Forall₂ (KeysReordered (some .parameter)) parameters others) :
    List.Forall₂ (KeysReordered (some .parameter)) (mergeParameters pathParameters parameters)
      (mergeParameters changed others) := by
  rw [mergeParameters, mergeParameters, parameterKeys_keysReordered inner]
  apply List.rel_append _ inner
  apply List.rel_filter _ outer
  intro parameter other reordered
  simp only [isOverridden_keysReordered reordered]

end Merging

theorem readParameters_keysReordered {parameters others : List Tree} (location : String)
    (related : List.Forall₂ (KeysReordered (some .parameter)) parameters others) :
    Outcome.Agree (List.Forall₂ DeclaredParameter.Alike) (readParameters location parameters)
      (readParameters location others) := by
  rw [readParameters_eq_mapM, readParameters_eq_mapM]
  apply Outcome.agree_mapM
  exact related.imp fun _ _ reordered => readParameter_keysReordered location reordered

/-! ## Bodies -/

theorem firstMedia?_keysReordered {media others : List (Tree × Tree)}
    (related : List.Forall₂ (EntryOf .content) media others) :
    (firstMedia? media = none ∧ firstMedia? others = none) ∨
      Exists fun mediaType => Exists fun node => Exists fun changed =>
        firstMedia? media = some (mediaType, node) ∧
        firstMedia? others = some (mediaType, changed) ∧
        KeysReordered (some .schema) node changed := by
  induction related with
  | nil => exact Or.inl ⟨rfl, rfl⟩
  | @cons entry other _ _ first _ ih =>
      rcases entry with ⟨mediaType, value⟩
      rcases other with ⟨otherType, otherValue⟩
      rcases first with ⟨rfl, values⟩
      cases values.view (by decide) with
      | map entries =>
          rw [firstMedia?, firstMedia?]
          rcases entries.foundAlike "schema" with
            ⟨absent, missing⟩ | ⟨node, changed, found, otherFound, nodes⟩
          · rw [absent, missing]
            exact ih
          · rw [found, otherFound]
            exact Or.inr ⟨otherType, node, changed, rfl, rfl, nodes⟩
      | leaf notMap =>
          cases value with
          | map entries label => exact absurd rfl (notMap entries label)
          | _ => exact ih

theorem optionAlike_refl (schema : Option Schema) :
    Option.Rel Schema.LoweredAlike schema schema := by
  cases schema with
  | none => exact .none
  | some schema => exact .some (.refl schema)

/-- The schema of a body is read in any order of its keys, and so is the absence of one. -/
theorem readBody_keysReordered {body other : Tree} (location : String)
    (reordered : KeysReordered (some .body) body other) :
    Outcome.Agree (Option.Rel Schema.LoweredAlike) (readBody location body)
      (readBody location other) := by
  have carried {place : String} {node changed : Tree}
      (nodes : KeysReordered (some .schema) node changed) :
      Outcome.Agree (Option.Rel Schema.LoweredAlike) ((readSchema place node).map some)
        ((readSchema place changed).map some) :=
    (readSchema_keysReordered place nodes).map fun _ _ alike => .some alike
  cases reordered.view (by decide) with
  | leaf notMap => exact .refl optionAlike_refl _
  | map entries =>
      rw [readBody, readBody, ← entries.lookup?_eq "$ref" (by decide)]
      split
      · exact .error _ _
      · rcases entries.foundAlike "schema" with
          ⟨absent, missing⟩ | ⟨node, changed, found, otherFound, nodes⟩
        · rw [absent, missing]
          have content := (entries.field_reordered "content").view (by decide)
          generalize field "content" _ = one at content ⊢
          generalize field "content" _ = two at content ⊢
          cases content with
          | leaf _ => exact .refl optionAlike_refl _
          | map entries =>
              dsimp only
              rcases firstMedia?_keysReordered (entries.inOrder rfl) with
                ⟨absent, missing⟩ | ⟨mediaType, node, changed, found, otherFound, nodes⟩
              · rw [absent, missing]
                exact .ok .none
              · rw [found, otherFound]
                exact (carried nodes).withText rfl
        · rw [found, otherFound]
          exact carried nodes

theorem readResponse_keysReordered {entry other : Tree × Tree} (location : String)
    (reordered : EntryOf .responses entry other) :
    Outcome.Agree
      (fun response changed => response.1 = changed.1 ∧
        Option.Rel Schema.LoweredAlike response.2 changed.2)
      (readResponse location entry) (readResponse location other) := by
  rw [readResponse, readResponse, reordered.key]
  apply ((readBody_keysReordered _ reordered.value).withText rfl).map
  exact fun _ _ alike => ⟨rfl, alike⟩

/-- Responses keep their order. -/
theorem responsesOf_keysReordered {responses other : Tree} (location : String)
    (reordered : KeysReordered (some .responses) responses other) :
    Outcome.Agree (List.Forall₂ (EntryOf .responses)) (responsesOf location responses)
      (responsesOf location other) := by
  have view := reordered.view (by decide)
  unfold responsesOf
  rw [view.isEmptyLike_eq]
  by_cases empty : other.isEmptyLike = true
  · rw [if_pos empty, if_pos empty]
    exact .ok .nil
  · rw [if_neg empty, if_neg empty]
    cases view with
    | map entries => exact .ok (entries.inOrder rfl)
    | leaf _ => exact .refl (KeysReordered.forall₂_refl .responses) _

/-! ## Operations and paths -/

theorem readOperation_keysReordered {entries others : List (Tree × Tree)}
    {pathParameters changed : List Tree} (method : Method) (location : String)
    (outer : List.Forall₂ (KeysReordered (some .parameter)) pathParameters changed)
    (reordered : EntriesReordered .operation entries others) :
    Outcome.Agree Operation.Alike (readOperation method location pathParameters entries)
      (readOperation method location changed others) := by
  have operationId : field "operationId" entries = field "operationId" others :=
    reordered.field_eq _ (by decide)
  rw [readOperation, readOperation, operationId]
  apply (listOf_keysReordered _ (reordered.field_reordered "parameters")).bind
  intro declared otherDeclared inner
  rw [checkUnique_keysReordered inner]
  apply (Outcome.Agree.of_eq rfl).bind
  intro _ _ _
  apply (responsesOf_keysReordered _ (reordered.field_reordered "responses")).bind
  intro responseEntries otherEntries sameStatuses
  apply (readParameters_keysReordered _ (mergeParameters_keysReordered outer inner)).bind
  intro parameters otherParameters sameParameters
  apply (readBody_keysReordered _ (reordered.field_reordered "requestBody")).bind
  intro body otherBody sameBody
  rw [readResponses_eq_mapM, readResponses_eq_mapM]
  apply (Outcome.agree_mapM (sameStatuses.imp fun _ _ one => readResponse_keysReordered _ one)).bind
  intro responses otherResponses sameResponses
  apply (Outcome.Agree.of_eq rfl).bind
  rintro name _ rfl
  exact .ok ⟨rfl, rfl, sameParameters, sameBody, Keyed.Related.ofList sameResponses⟩

theorem readOperations_keysReordered {entries others : List (Tree × Tree)}
    {pathParameters changed : List Tree} (location : String) (seen : List Method)
    (outer : List.Forall₂ (KeysReordered (some .parameter)) pathParameters changed)
    (related : List.Forall₂ (EntryOf .pathItem) entries others) :
    Outcome.Agree (List.Forall₂ Operation.Alike)
      (readOperations location pathParameters seen entries)
      (readOperations location changed seen others) := by
  induction related generalizing seen with
  | nil => exact .ok .nil
  | @cons entry other _ _ first _ ih =>
      rcases entry with ⟨key, value⟩
      rcases other with ⟨otherKey, otherValue⟩
      rcases first with ⟨rfl, values⟩
      cases entryCases seen (otherKey, value) with
      | illegible unknown =>
          rw [readOperations_illegible _ _ _ unknown, readOperations_illegible _ _ _ unknown]
          exact .error _ _
      | unnamed legible unnamed =>
          rw [readOperations_unnamed _ _ _ legible unnamed,
            readOperations_unnamed _ _ _ legible unnamed]
          exact ih seen
      | @operation _ method inner label legible named fresh =>
          dsimp only at values
          rw [Role.inner_operation named] at values
          cases values.view (by decide) with
          | leaf notMap => exact absurd rfl (notMap inner label)
          | map members =>
              rw [readOperations_named _ _ _ legible named fresh,
                readOperations_named _ _ _ legible named fresh]
              apply (readOperation_keysReordered method _ outer members).bind
              intro operation changedOperation alike
              apply (ih (method :: seen)).bind
              intro rest changedRest others
              exact .ok (.cons alike others)
      | @refused _ _ method legible named refused =>
          dsimp only at values
          rw [Role.inner_operation named] at values
          have otherRefused : method ∈ seen ∨ forall inner label, otherValue ≠ .map inner label := by
            apply refused.imp_right
            intro notMap
            cases values.view (by decide) with
            | leaf otherNotMap => exact otherNotMap
            | map _ => exact absurd rfl (notMap _ _)
          rcases readOperations_refused location pathParameters seen legible named refused _ with
            ⟨_, failed⟩
          rcases readOperations_refused location changed seen legible named otherRefused _ with
            ⟨_, otherFailed⟩
          rw [failed, otherFailed]
          exact .error _ _

theorem readPathItem_keysReordered {entries others : List (Tree × Tree)} (location : String)
    (reordered : EntriesReordered .pathItem entries others) :
    Outcome.Agree (List.Forall₂ Operation.Alike) (readPathItem location entries)
      (readPathItem location others) := by
  rw [readPathItem, readPathItem]
  apply (listOf_keysReordered _ (reordered.field_reordered "parameters")).bind
  intro pathParameters changed outer
  rw [checkUnique_keysReordered outer]
  apply (Outcome.Agree.of_eq rfl).bind
  intro _ _ _
  exact readOperations_keysReordered location [] outer (reordered.inOrder rfl)

theorem readPath_keysReordered {entry other : Tree × Tree} (reordered : EntryOf .paths entry other) :
    Outcome.Agree
      (fun path changed => path.1 = changed.1 ∧ List.Forall₂ Operation.Alike path.2 changed.2)
      (readPath entry) (readPath other) := by
  rcases entry with ⟨key, item⟩
  rcases other with ⟨otherKey, otherItem⟩
  rcases reordered with ⟨rfl, items⟩
  rw [readPath, readPath]
  dsimp only
  apply Outcome.Agree.withText _ rfl
  split
  · exact .error _ _
  · cases items.view (by decide) with
    | leaf notMap =>
        cases item with
        | map entries label => exact absurd rfl (notMap entries label)
        | _ => exact .error _ _
    | map entries =>
        dsimp only
        rw [entries.lookup?_eq _ (by decide)]
        split
        · exact .error _ _
        · apply (readPathItem_keysReordered _ entries).map
          exact fun _ _ alike => ⟨rfl, alike⟩

theorem readPaths_keysReordered {entries others : List (Tree × Tree)}
    (reordered : EntriesReordered .document entries others) :
    Outcome.Agree (Keyed.Related (List.Forall₂ Operation.Alike)) (readPaths entries)
      (readPaths others) := by
  rw [readPaths, readPaths]
  rcases reordered.foundAlike "paths" with
    ⟨absent, missing⟩ | ⟨paths, changed, found, otherFound, values⟩
  · rw [absent, missing]
    exact .error _ _
  · rw [found, otherFound]
    cases values.view (by decide) with
    | map entries =>
        dsimp only
        rw [readPathList_eq_mapM, readPathList_eq_mapM]
        apply (Outcome.agree_mapM
          ((entries.inOrder rfl).imp fun _ _ one => readPath_keysReordered one)).map
        exact fun _ _ alike => Keyed.Related.ofList alike
    | leaf notMap =>
        cases paths with
        | map entries label => exact absurd rfl (notMap entries label)
        | _ => exact .error _ _

/-! ## Documents -/

theorem readComponent_keysReordered {entry other : Tree × Tree}
    (reordered : EntryOf .schemas entry other) :
    Outcome.Agree
      (fun component changed => component.1 = changed.1 ∧ component.2.LoweredAlike changed.2)
      (readComponent entry) (readComponent other) := by
  rw [readComponent, readComponent, reordered.key]
  apply ((readSchema_keysReordered _ reordered.value).withText rfl).map
  exact fun _ _ alike => ⟨rfl, alike⟩

theorem readComponents_keysReordered {components other : Tree}
    (reordered : KeysReordered (some .components) components other) :
    Outcome.Agree (Keyed.Related Schema.LoweredAlike) (readComponents components)
      (readComponents other) := by
  cases reordered.view (by decide) with
  | leaf notMap =>
      cases components with
      | map entries label => exact absurd rfl (notMap entries label)
      | null => exact .ok .nil
      | _ => exact .error _ _
  | map sections =>
      have schemas := (sections.field_reordered "schemas").view (by decide)
      rw [readComponents, readComponents]
      generalize field "schemas" _ = left at schemas ⊢
      generalize field "schemas" _ = right at schemas ⊢
      cases schemas with
      | leaf notMap =>
          cases left with
          | map entries label => exact absurd rfl (notMap entries label)
          | null => exact .ok .nil
          | _ => exact .error _ _
      | map entries =>
          dsimp only
          rw [readComponentList_eq_mapM, readComponentList_eq_mapM]
          apply (Outcome.agree_mapM
            ((entries.inOrder rfl).imp fun _ _ one => readComponent_keysReordered one)).map
          exact fun _ _ alike => Keyed.Related.ofList alike

/-- A document whose keys are reordered is read just when the document is, as a document whose
schemas are lowered alike. -/
theorem read_keysReordered {tree other : Tree}
    (reordered : KeysReordered (some .document) tree other) :
    Outcome.Agree Alike (read tree) (read other) := by
  cases reordered.view (by decide) with
  | leaf notMap =>
      cases tree with
      | map entries label => exact absurd rfl (notMap entries label)
      | _ => exact .error _ _
  | map entries =>
      have swagger := entries.lookup?_eq "swagger" (by decide)
      have openapi := entries.lookup?_eq "openapi" (by decide)
      rw [read, read, checkVersion_congr swagger openapi]
      apply (Outcome.Agree.of_eq rfl).bind
      intro _ _ _
      apply (readComponents_keysReordered (entries.field_reordered "components")).bind
      intro components otherComponents sameComponents
      apply (readPaths_keysReordered entries).bind
      intro paths otherPaths samePaths
      exact .ok ⟨sameComponents, samePaths⟩

end Document
end RouteIR
