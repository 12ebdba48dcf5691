import RouteIR.Proofs.Document.KeyOrder
import RouteIR.Proofs.Document.Schemas
import RouteIR.Proofs.Schema.Spelling

namespace RouteIR
namespace Document

/-!
# Documents with their keys respelled

Reading a document either looks for words among its keys, or goes through them as the texts
that they read as: names of components, statuses, methods and media types.  A path has to be a
text with a slash in front, which no other key reads as.  So a respelled document is read as
the document is, unless a schema in it is refused for a name that an object hides.
-/

open Outcome (Agree AgreeUnless)
open RouteIR.Tree

/-- The failure of a document for a name that an object in it hides. -/
def HiddenFailure (whole : Tree) (failure : Failure) : Prop :=
  Exists fun node => Exists fun name => Exists fun location => whole.Holds node ∧
    node.HidesName name ∧
    failure = .rule ⟨location, .invalid (.requiredNotProperty name)⟩

variable {whole : Tree}

theorem readSchema_respelled {node : Tree} (within : whole.Holds node) (location : String) :
    AgreeUnless (HiddenFailure whole) Schema.LoweredAlike (readSchema location node)
      (readSchema location node.respelled) := by
  apply (Schema.read_respelled node).mapError
  rintro _ ⟨inner, name, steps, innerWithin, hides, rfl⟩
  exact ⟨inner, name, _, within.trans innerWithin, hides, rfl⟩

/-! ## Version -/

/-- A version that is no scalar does not begin with a digit, however its keys are spelled. -/
theorem isVersion_respelled (version : Tree) :
    "3.".toList.isPrefixOf version.respelled.display.toList =
      "3.".toList.isPrefixOf version.display.toList := by
  have refused {tree : Tree} {kind : Compound} (compound : tree.identity = .error kind) :
      "3.".toList.isPrefixOf tree.display.toList = false := by
    rcases display_of_compound compound with isEmpty | ⟨head, tail, chars, rfl | rfl | rfl⟩
    · rw [isEmpty]
      rfl
    all_goals
      rw [chars]
      rfl
  cases scalar : version.identity with
  | ok identity => rw [respelled_of_identity scalar]
  | error kind => rw [refused scalar, refused ((identity_respelled version).trans scalar)]

theorem checkVersion_of_present {entries : List (Tree × Tree)}
    (notSwagger : lookup? "swagger" entries = none) (present : field "openapi" entries ≠ .null) :
    checkVersion entries =
      if "3.".toList.isPrefixOf (field "openapi" entries).display.toList then .ok ()
      else malformed "openapi" (.unknownVersion (field "openapi" entries)) := by
  rw [checkVersion, notSwagger]
  dsimp only
  split
  · next absent => exact absurd absent present
  · rfl

theorem checkVersion_respelled (entries : List (Tree × Tree)) :
    Agree Eq (checkVersion entries) (checkVersion (entries.map respelledEntry)) := by
  have swagger := lookup?_respelled entries (by decide : isWord "swagger" = true)
  have openapi := field_respelled entries (by decide : isWord "openapi" = true)
  cases declared : lookup? "swagger" entries with
  | some version =>
      rw [declared] at swagger
      rw [checkVersion, checkVersion, declared, swagger]
      exact .error _ _
  | none =>
      rw [declared] at swagger
      by_cases absent : field "openapi" entries = .null
      · rw [absent] at openapi
        rw [checkVersion, checkVersion, declared, swagger, absent, openapi]
        exact .of_eq rfl
      · have present : field "openapi" (entries.map respelledEntry) ≠ .null := by
          rw [openapi]
          exact fun isNull => absent (respelled_eq_null_iff.mp isNull)
        rw [checkVersion_of_present declared absent, checkVersion_of_present swagger present,
          openapi, isVersion_respelled]
        split
        · exact .of_eq rfl
        · exact .error _ _

/-! ## Components -/

theorem readComponent_respelled {entry : Tree × Tree} (within : whole.Holds entry.2) :
    AgreeUnless (HiddenFailure whole)
      (fun component changed => component.1 = changed.1 ∧ component.2.LoweredAlike changed.2)
      (readComponent entry) (readComponent (respelledEntry entry)) := by
  rw [readComponent, readComponent, respelledEntry, display_respelledKey]
  apply ((readSchema_respelled within _).withText (isLegible_respelledKey entry.1)).map
  exact fun _ _ alike => ⟨rfl, alike⟩

theorem readComponents_respelled {components : Tree}
    (within : components ≠ .null -> whole.Holds components) :
    AgreeUnless (HiddenFailure whole) (Keyed.Related Schema.LoweredAlike)
      (readComponents components) (readComponents components.respelled) := by
  cases components with
  | null => exact .ok .nil
  | map sections label =>
      rw [respelled_map, readComponents, readComponents, field_respelled sections (by decide)]
      cases declared : field "schemas" sections with
      | null => exact .ok .nil
      | map schemas schemasLabel =>
          have inside : whole.Holds (.map schemas schemasLabel) :=
            (within (by simp)).field declared (by simp)
          rw [respelled_map]
          dsimp only
          rw [readComponentList_eq_mapM, readComponentList_eq_mapM]
          have each : AgreeUnless (HiddenFailure whole) (Keyed.Related Schema.LoweredAlike)
              (schemas.mapM readComponent) ((schemas.map respelledEntry).mapM readComponent) :=
            Outcome.agreeUnless_mapM fun _ member => readComponent_respelled (inside.entry member)
          apply each.map
          exact fun _ _ alike => Keyed.Related.ofList alike
      | _ => exact .error _ _
  | _ => exact .error _ _

/-! ## Parameters -/

section Parameters

variable {entries : List (Tree × Tree)}

theorem parameterKey_respelled (entries : List (Tree × Tree)) :
    parameterKey (entries.map respelledEntry) = parameterKey entries := by
  rw [parameterKey, parameterKey, field_respelled entries (by decide),
    field_respelled entries (by decide), identity_respelled, identity_respelled]

theorem place_respelled (tree : Tree) :
    ParameterLocation.ofTree? tree.respelled = ParameterLocation.ofTree? tree := by
  cases tree <;> rfl

theorem requiredFlag_respelled (entries : List (Tree × Tree)) (required : Bool) :
    (lookup? "required" (entries.map respelledEntry)).getD (.bool false) = .bool required ↔
      (lookup? "required" entries).getD (.bool false) = .bool required := by
  rw [lookup?_respelled entries (by decide)]
  cases lookup? "required" entries with
  | none => rfl
  | some value => exact respelled_eq_bool_iff

/-- A respelled parameter has the parts of the parameter, with its schema respelled. -/
theorem parts_respelled_iff (name : String) (place : ParameterLocation) (required : Bool)
    (changed : Tree) :
    ParameterParts (entries.map respelledEntry) name place required changed ↔
      Exists fun node => ParameterParts entries name place required node ∧
        changed = node.respelled := by
  have plain := lookup?_respelled entries (by decide : isWord "$ref" = true)
  have named := field_respelled entries (by decide : isWord "name" = true)
  have placed := field_respelled entries (by decide : isWord "in" = true)
  have schema := lookup?_respelled entries (by decide : isWord "schema" = true)
  constructor
  · intro parts
    have found := parts.schemaFound
    rw [schema, Option.map_eq_some_iff] at found
    rcases found with ⟨node, nodeFound, same⟩
    refine ⟨node, ⟨?_, ?_, parts.nameFilled, ?_, nodeFound, ?_⟩, same.symm⟩
    · exact Option.map_eq_none_iff.mp (plain ▸ parts.plain)
    · exact respelled_eq_str_iff.mp (named ▸ parts.nameFound)
    · rw [← parts.placeFound, placed, place_respelled]
    · exact (requiredFlag_respelled entries required).mp parts.requiredFound
  · rintro ⟨node, parts, rfl⟩
    refine ⟨?_, ?_, parts.nameFilled, ?_, ?_, ?_⟩
    · rw [plain, parts.plain, Option.map_none]
    · rw [named]
      exact respelled_eq_str_iff.mpr parts.nameFound
    · rw [placed, place_respelled, parts.placeFound]
    · rw [schema, parts.schemaFound, Option.map_some]
    · exact (requiredFlag_respelled entries required).mpr parts.requiredFound

end Parameters

theorem readParameter_respelled {parameter : Tree} (within : whole.Holds parameter)
    (location : String) :
    AgreeUnless (HiddenFailure whole) DeclaredParameter.Alike (readParameter location parameter)
      (readParameter location parameter.respelled) := by
  cases parameter with
  | map entries label =>
      rw [respelled_map]
      by_cases complete : Exists fun name => Exists fun place => Exists fun required =>
          Exists fun node => ParameterParts entries name place required node
      · rcases complete with ⟨name, place, required, node, parts⟩
        have otherParts := (parts_respelled_iff name place required _).mpr ⟨node, parts, rfl⟩
        rw [readParameter_of_parts parts, readParameter_of_parts otherParts]
        apply (readSchema_respelled (within.lookup parts.schemaFound) _).map
        exact fun _ _ alike => ⟨rfl, rfl, rfl, alike⟩
      · rcases exists_parts_of_parameter location (.map entries label) with
          ⟨_, refused⟩ | ⟨_, _, name, place, required, node, ⟨⟩, parts⟩
        · rcases exists_parts_of_parameter location (.map (entries.map respelledEntry) label) with
            ⟨_, otherRefused⟩ | ⟨_, _, name, place, required, changed, ⟨⟩, otherParts⟩
          · rw [refused, otherRefused]
            exact .error _ _
          · rcases (parts_respelled_iff name place required changed).mp otherParts with
              ⟨node, parts, _⟩
            exact absurd ⟨name, place, required, node, parts⟩ complete
        · exact absurd ⟨name, place, required, node, parts⟩ complete
  | _ => exact .error _ _

theorem readParameters_respelled {parameters : List Tree}
    (within : forall parameter, parameter ∈ parameters -> whole.Holds parameter)
    (location : String) :
    AgreeUnless (HiddenFailure whole) (List.Forall₂ DeclaredParameter.Alike)
      (readParameters location parameters)
      (readParameters location (parameters.map respelled)) := by
  rw [readParameters_eq_mapM, readParameters_eq_mapM]
  apply Outcome.agreeUnless_mapM
  exact fun parameter member => readParameter_respelled (within parameter member) location

/-! ## Lists of parameters -/

theorem listOf_respelled (location : String) (declared : Tree) :
    listOf location declared.respelled = (listOf location declared).map (·.map respelled) := by
  cases declared with
  | list items label => rw [respelled_list]; rfl
  | _ => rfl

theorem checkUnique_respelled (location : String) (seen : List (Identity × Identity))
    (parameters : List Tree) :
    Agree Eq (checkUnique location seen parameters)
      (checkUnique location seen (parameters.map respelled)) := by
  induction parameters generalizing seen with
  | nil => exact .of_eq rfl
  | cons parameter rest ih =>
      rw [List.map_cons]
      cases parameter with
      | map entries label =>
          rw [respelled_map, checkUnique, checkUnique, parameterKey_respelled]
          cases parameterKey entries with
          | error kind => exact .error _ _
          | ok key =>
              dsimp only
              split
              · exact Outcome.agree_withText_error _ _ _ _ _ _
              · exact ih _
      | _ => exact ih seen

theorem parameterKeys_respelled (parameters : List Tree) :
    parameterKeys (parameters.map respelled) = parameterKeys parameters := by
  induction parameters with
  | nil => rfl
  | cons parameter rest ih =>
      rw [parameterKeys, parameterKeys] at ih ⊢
      rw [List.map_cons, List.filterMap_cons, List.filterMap_cons, ih]
      cases parameter with
      | map entries label =>
          rw [respelled_map]
          dsimp only
          rw [parameterKey_respelled]
      | _ => rfl

theorem isOverridden_respelled (keys : List (Identity × Identity)) (parameter : Tree) :
    isOverridden keys parameter.respelled = isOverridden keys parameter := by
  cases parameter with
  | map entries label => rw [respelled_map, isOverridden, isOverridden, parameterKey_respelled]
  | _ => rfl

theorem mergeParameters_respelled (pathParameters parameters : List Tree) :
    mergeParameters (pathParameters.map respelled) (parameters.map respelled) =
      (mergeParameters pathParameters parameters).map respelled := by
  rw [mergeParameters, mergeParameters, parameterKeys_respelled, List.map_append, List.filter_map]
  have sameKept : ((fun parameter => !isOverridden (parameterKeys parameters) parameter) ∘
      respelled) = fun parameter => !isOverridden (parameterKeys parameters) parameter := by
    funext parameter
    simp only [Function.comp_apply, isOverridden_respelled]
  rw [sameKept]

/-! ## Bodies -/

theorem firstMedia?_respelled (media : List (Tree × Tree)) :
    firstMedia? (media.map respelledEntry) = (firstMedia? media).map respelledEntry := by
  induction media with
  | nil => rfl
  | cons entry rest ih =>
      rcases entry with ⟨mediaType, value⟩
      rw [List.map_cons, respelledEntry]
      cases value with
      | map entries label =>
          rw [respelled_map, firstMedia?, firstMedia?, lookup?_respelled entries (by decide), ih]
          cases lookup? "schema" entries <;> rfl
      | _ => exact ih

theorem readBody_respelled {body : Tree} (within : body ≠ .null -> whole.Holds body)
    (location : String) :
    AgreeUnless (HiddenFailure whole) (Option.Rel Schema.LoweredAlike) (readBody location body)
      (readBody location body.respelled) := by
  have carried {place : String} {node : Tree} (inside : whole.Holds node) :
      AgreeUnless (HiddenFailure whole) (Option.Rel Schema.LoweredAlike)
        ((readSchema place node).map some) ((readSchema place node.respelled).map some) :=
    (readSchema_respelled inside place).map fun _ _ alike => .some alike
  cases body with
  | null => exact .ok .none
  | map entries label =>
      have within := within (by simp)
      rw [respelled_map, readBody, readBody, lookup?_respelled entries (by decide),
        lookup?_respelled entries (by decide), field_respelled entries (by decide)]
      cases lookup? "$ref" entries with
      | some target => exact .error _ _
      | none =>
          dsimp only [Option.map_none]
          cases found : lookup? "schema" entries with
          | some node => exact carried (within.lookup found)
          | none =>
              dsimp only [Option.map_none]
              cases declared : field "content" entries with
              | null => exact .ok .none
              | map media mediaLabel =>
                  have inside : whole.Holds (.map media mediaLabel) :=
                    within.field declared (by simp)
                  rw [respelled_map]
                  dsimp only
                  rw [firstMedia?_respelled]
                  cases first : firstMedia? media with
                  | none => exact .ok .none
                  | some found =>
                      rcases exists_entry_of_firstMedia? first with ⟨entry, member, _, nodeFound⟩
                      dsimp only [Option.map_some, respelledEntry]
                      rw [display_respelledKey]
                      exact (carried ((inside.entry member).lookup nodeFound)).withText
                        (isLegible_respelledKey found.1)
              | _ => exact .error _ _
  | _ => exact .error _ _

theorem readResponse_respelled {entry : Tree × Tree} (within : whole.Holds entry.2)
    (location : String) :
    AgreeUnless (HiddenFailure whole)
      (fun response changed => response.1 = changed.1 ∧
        Option.Rel Schema.LoweredAlike response.2 changed.2)
      (readResponse location entry) (readResponse location (respelledEntry entry)) := by
  rw [readResponse, readResponse, respelledEntry, display_respelledKey]
  apply ((readBody_respelled (fun _ => within) _).withText (isLegible_respelledKey entry.1)).map
  exact fun _ _ alike => ⟨rfl, alike⟩

theorem responsesOf_respelled (location : String) (responses : Tree) :
    responsesOf location responses.respelled =
      (responsesOf location responses).map (·.map respelledEntry) := by
  unfold responsesOf
  rw [isEmptyLike_respelled]
  split
  · rfl
  · cases responses with
    | map entries label => rw [respelled_map]; rfl
    | _ => rfl

/-! ## Operations and paths -/

/-- What the passes over a list and over the respelled list find. -/
theorem agree_of_map {α : Type} {found other : Except Failure (List α)} {change : α -> α}
    (same : other = found.map (·.map change)) :
    AgreeUnless (HiddenFailure whole) (fun items changed => changed = items.map change)
      found other := by
  rw [same]
  cases found with
  | ok items => exact .ok rfl
  | error failure => exact .error _ _

theorem readOperation_respelled {entries : List (Tree × Tree)} {label : Option Label}
    {pathParameters : List Tree} (within : whole.Holds (.map entries label))
    (outer : forall parameter, parameter ∈ pathParameters -> whole.Holds parameter)
    (method : Method) (location : String) :
    AgreeUnless (HiddenFailure whole) Operation.Alike
      (readOperation method location pathParameters entries)
      (readOperation method location (pathParameters.map respelled)
        (entries.map respelledEntry)) := by
  rw [readOperation, readOperation, field_respelled entries (by decide),
    field_respelled entries (by decide), field_respelled entries (by decide),
    field_respelled entries (by decide)]
  apply (agree_of_map (listOf_respelled _ _)).bind
  rintro declared _ declaredFound rfl
  apply (checkUnique_respelled _ [] declared).unless.bind
  rintro _ _ _ rfl
  apply (agree_of_map (responsesOf_respelled _ _)).bind
  rintro responseEntries _ responsesFound rfl
  rw [mergeParameters_respelled]
  have inner : forall parameter, parameter ∈ mergeParameters pathParameters declared ->
      whole.Holds parameter := by
    intro parameter member
    rcases List.mem_append.mp member with ofPath | own
    · exact outer parameter (List.mem_of_mem_filter ofPath)
    · exact holds_of_listOf within declaredFound own
  apply (readParameters_respelled inner _).bind
  intro parameters changed _ sameParameters
  apply (readBody_respelled (within.field rfl) _).bind
  intro body otherBody _ sameBody
  rw [readResponses_eq_mapM, readResponses_eq_mapM]
  have each : AgreeUnless (HiddenFailure whole) (Keyed.Related (Option.Rel Schema.LoweredAlike))
      (responseEntries.mapM (readResponse (location ++ ".responses")))
      ((responseEntries.map respelledEntry).mapM (readResponse (location ++ ".responses"))) :=
    Outcome.agreeUnless_mapM fun _ member =>
      readResponse_respelled (holds_of_responsesOf within responsesFound member) _
  apply each.bind
  intro responses otherResponses _ sameResponses
  rw [readOperationId, readOperationId, optionalText_respelled]
  apply (Agree.of_eq rfl).unless.bind
  rintro name _ _ rfl
  exact .ok ⟨rfl, rfl, sameParameters, sameBody, Keyed.Related.ofList sameResponses⟩

theorem method_respelled (key : Tree) : Method.ofKey? key.respelledKey = Method.ofKey? key := by
  rw [Method.ofKey?, Method.ofKey?, display_respelledKey]

theorem readOperations_respelled {entries : List (Tree × Tree)} {pathParameters : List Tree}
    (within : forall entry, entry ∈ entries -> whole.Holds entry.2)
    (outer : forall parameter, parameter ∈ pathParameters -> whole.Holds parameter)
    (location : String) (seen : List Method) :
    AgreeUnless (HiddenFailure whole) (List.Forall₂ Operation.Alike)
      (readOperations location pathParameters seen entries)
      (readOperations location (pathParameters.map respelled) seen
        (entries.map respelledEntry)) := by
  induction entries generalizing seen with
  | nil => exact .ok .nil
  | cons entry rest ih =>
      have ih := ih fun later member => within later (List.mem_cons_of_mem _ member)
      rw [List.map_cons]
      cases entryCases seen entry with
      | @illegible key value unknown =>
          rw [readOperations_illegible _ _ _ unknown]
          rw [← isLegible_respelledKey] at unknown
          rw [respelledEntry, readOperations_illegible _ _ _ unknown]
          exact .error _ _
      | @unnamed key value legible unnamed =>
          rw [readOperations_unnamed _ _ _ legible unnamed]
          rw [← isLegible_respelledKey] at legible
          rw [← method_respelled] at unnamed
          rw [respelledEntry, readOperations_unnamed _ _ _ legible unnamed]
          exact ih seen
      | @operation key method inner label legible named fresh =>
          have inside := within _ List.mem_cons_self
          rw [readOperations_named _ _ _ legible named fresh]
          rw [← isLegible_respelledKey] at legible
          rw [← method_respelled] at named
          rw [respelledEntry, respelled_map, readOperations_named _ _ _ legible named fresh,
            display_respelledKey]
          apply (readOperation_respelled inside outer method _).bind
          intro operation changed _ alike
          apply (ih (method :: seen)).bind
          intro others remaining _ rests
          exact .ok (.cons alike rests)
      | @refused key value method legible named refused =>
          have otherRefused : method ∈ seen ∨
              forall inner label, value.respelled ≠ .map inner label := by
            apply refused.imp_right
            intro notMap inner label isMap
            rcases exists_map_of_respelled isMap with ⟨own, same⟩
            exact notMap own label same
          rcases readOperations_refused location pathParameters seen legible named refused rest with
            ⟨_, failed⟩
          rw [← isLegible_respelledKey] at legible
          rw [← method_respelled] at named
          rcases readOperations_refused location (pathParameters.map respelled) seen legible named
            otherRefused (rest.map respelledEntry) with ⟨_, otherFailed⟩
          rw [respelledEntry, failed, otherFailed]
          exact .error _ _

theorem readPathItem_respelled {entries : List (Tree × Tree)} {label : Option Label}
    (within : whole.Holds (.map entries label)) (location : String) :
    AgreeUnless (HiddenFailure whole) (List.Forall₂ Operation.Alike)
      (readPathItem location entries) (readPathItem location (entries.map respelledEntry)) := by
  rw [readPathItem, readPathItem, field_respelled entries (by decide)]
  apply (agree_of_map (listOf_respelled _ _)).bind
  rintro pathParameters _ found rfl
  apply (checkUnique_respelled _ [] pathParameters).unless.bind
  rintro _ _ _ rfl
  exact readOperations_respelled (fun _ => within.entry)
    (fun _ => holds_of_listOf within found) location []

/-- No key but a text has a slash in front. -/
theorem pathOf?_display (key : Tree) : pathOf? (.str key.display) = pathOf? key := by
  by_cases isText : Exists fun text => key = .str text
  · rcases isText with ⟨text, rfl⟩
    rfl
  · have other := readsOther_display (not_exists.mp isText)
    have noSlash : key.display.toList.head? ≠ some '/' := by
      intro slash
      rcases other with isWord | ⟨head, begins, known⟩
      · revert slash
        revert isWord
        generalize key.display = text
        revert text
        decide
      · rw [slash] at begins
        cases begins
        revert known
        decide
    cases key with
    | str text => exact absurd ⟨text, rfl⟩ isText
    | _ => rw [pathOf?, if_neg noSlash]; rfl

theorem pathOf?_respelledKey (key : Tree) : pathOf? key.respelledKey = pathOf? key := by
  cases legible : key.isLegible with
  | true => rw [respelledKey_of_isLegible legible, pathOf?_display]
  | false => rw [respelledKey_of_not_isLegible legible]

theorem readPath_respelled {entry : Tree × Tree} (within : whole.Holds entry.2) :
    AgreeUnless (HiddenFailure whole)
      (fun path changed => path.1 = changed.1 ∧ List.Forall₂ Operation.Alike path.2 changed.2)
      (readPath entry) (readPath (respelledEntry entry)) := by
  rcases entry with ⟨key, item⟩
  rw [readPath, readPath, respelledEntry, pathOf?_respelledKey, display_respelledKey]
  apply AgreeUnless.withText _ (isLegible_respelledKey key)
  dsimp only
  cases pathOf? key with
  | none => exact .error _ _
  | some path =>
      cases item with
      | map entries label =>
          rw [respelled_map]
          dsimp only
          rw [lookup?_respelled entries (by decide)]
          cases lookup? "$ref" entries with
          | some target => exact .error _ _
          | none =>
              apply (readPathItem_respelled within _).map
              exact fun _ _ alike => ⟨rfl, alike⟩
      | _ => exact .error _ _

theorem readPaths_respelled {entries : List (Tree × Tree)} {label : Option Label}
    (within : whole.Holds (.map entries label)) :
    AgreeUnless (HiddenFailure whole) (Keyed.Related (List.Forall₂ Operation.Alike))
      (readPaths entries) (readPaths (entries.map respelledEntry)) := by
  rw [readPaths, readPaths, lookup?_respelled entries (by decide)]
  cases found : lookup? "paths" entries with
  | none => exact .error _ _
  | some paths =>
      have inside := within.lookup found
      cases paths with
      | map items itemsLabel =>
          rw [Option.map_some, respelled_map]
          dsimp only
          rw [readPathList_eq_mapM, readPathList_eq_mapM]
          have each : AgreeUnless (HiddenFailure whole)
              (Keyed.Related (List.Forall₂ Operation.Alike)) (items.mapM readPath)
              ((items.map respelledEntry).mapM readPath) :=
            Outcome.agreeUnless_mapM fun _ member => readPath_respelled (inside.entry member)
          apply each.map
          exact fun _ _ alike => Keyed.Related.ofList alike
      | _ => exact .error _ _

/-- A respelled document is read as the document is, unless this is refused for a name that an
object in it hides. -/
theorem read_respelled (tree : Tree) :
    AgreeUnless (HiddenFailure tree) Alike (read tree) (read tree.respelled) := by
  cases tree with
  | map entries label =>
      have whole : (Tree.map entries label).Holds (.map entries label) := .root
      rw [respelled_map, read, read, field_respelled entries (by decide)]
      apply (checkVersion_respelled entries).unless.bind
      rintro _ _ _ rfl
      apply (readComponents_respelled (whole.field rfl)).bind
      intro components changed _ sameComponents
      apply (readPaths_respelled whole).bind
      intro paths otherPaths _ samePaths
      exact .ok ⟨sameComponents, samePaths⟩
  | _ => exact .error _ _

end Document
end RouteIR
