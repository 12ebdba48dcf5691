import RouteIR.Proofs.Document.Declaration
import RouteIR.Proofs.Document.Identification

namespace RouteIR

/-!
# The parameters of an operation

A path declares parameters for all of its operations, and an operation may declare some of
them anew.  Which ones it declares anew is decided before any entry is checked, by comparing
whatever stands under the name and the place of two entries.  Only afterwards are the entries
that remain read as parameters.  In a document that is accepted all of them have texts for
name and place, so the comparison of raw values comes to the same as one of the parameters
themselves: those of the operation are kept, and those of the path where the operation has no
parameter of that name and place.
-/

/-- The items of a list; every other tree has none. -/
def Tree.items : Tree -> List Tree
  | list items _ => items
  | _ => []

theorem Tree.identity_eq_text_iff (tree : Tree) (text : String) :
    tree.identity = .ok (.text text) ↔ tree = .str text := by
  cases tree with
  | dateTime value =>
      rw [identity]
      split <;> simp
  | _ => simp [identity]

/-- The place that a tree names is the text of the tree. -/
theorem ParameterLocation.eq_of_ofTree? {tree : Tree} {place : ParameterLocation}
    (known : ofTree? tree = some place) : tree = .str place.text := by
  cases tree with
  | str spelling =>
      have same := List.find?_some known
      rw [of_decide_eq_true same]
  | _ => cases known

theorem ParameterLocation.text_injective : Function.Injective text := by
  intro one other same
  have found := ofText?_text one
  rw [same, ofText?_text other] at found
  exact (Option.some.inj found).symm

/-- What tells the parameters of an operation apart. -/
def DeclaredParameter.nameAndPlace (parameter : DeclaredParameter) : String × String :=
  (parameter.name, parameter.location.text)

namespace Document

/-! ## Entries of a parameter list -/

theorem listOf_eq_ok {location : String} {declared : Tree} {parameters : List Tree}
    (found : listOf location declared = .ok parameters) : parameters = declared.items := by
  cases declared with
  | null | list _ _ =>
      cases found
      rfl
  | _ => cases found

/-- The name and the place of an entry, where both are texts. -/
def nameAndPlace? (entry : Tree) : Option (String × String) :=
  match Tree.field "name" entry.entries, Tree.field "in" entry.entries with
  | .str name, .str place => some (name, place)
  | _, _ => none

/-- A parameter as an entry declares it.  One that travels in the path is required whatever
the entry says. -/
inductive DeclaredBy : Tree -> DeclaredParameter -> Prop
  | intro {entries : List (Tree × Tree)} {label : Option Label} {name : String}
      {place : ParameterLocation} {required : Bool} {node : Tree} {schema : Schema}
      (parts : ParameterParts entries name place required node)
      (schemaRead : Schema.read node = .ok schema) :
      DeclaredBy (.map entries label) ⟨name, place, required || place = .path, schema⟩

theorem nameAndPlace?_eq_some_iff (entry : Tree) (name place : String) :
    nameAndPlace? entry = some (name, place) ↔
      Tree.field "name" entry.entries = .str name ∧ Tree.field "in" entry.entries = .str place := by
  constructor
  · intro found
    rw [nameAndPlace?] at found
    split at found
    · next nameFound placeFound =>
        cases found
        exact ⟨nameFound, placeFound⟩
    · cases found
  · rintro ⟨nameFound, placeFound⟩
    rw [nameAndPlace?, nameFound, placeFound]

/-- An entry with texts for name and place is identified by them. -/
theorem parameterKey_eq_texts_iff (entries : List (Tree × Tree)) (label : Option Label)
    (name place : String) :
    parameterKey entries = .ok (.text name, .text place) ↔
      nameAndPlace? (.map entries label) = some (name, place) := by
  rw [parameterKey_eq_ok_iff, nameAndPlace?_eq_some_iff, Tree.entries, Tree.identity_eq_text_iff,
    Tree.identity_eq_text_iff]

theorem mem_parameterKeys_iff (parameters : List Tree) (key : Identity × Identity) :
    key ∈ parameterKeys parameters ↔ Exists fun entries => Exists fun label =>
      Tree.map entries label ∈ parameters ∧ parameterKey entries = .ok key := by
  rw [parameterKeys, List.mem_filterMap]
  constructor
  · rintro ⟨parameter, member, found⟩
    cases parameter with
    | map entries label =>
        dsimp only at found
        cases identified : parameterKey entries with
        | ok known =>
            rw [identified] at found
            cases found
            exact ⟨entries, label, member, identified⟩
        | error kind =>
            rw [identified] at found
            cases found
    | _ => cases found
  · rintro ⟨entries, label, member, identified⟩
    refine ⟨_, member, ?_⟩
    dsimp only
    rw [identified]
    rfl

namespace DeclaredBy

variable {entry : Tree} {parameter : DeclaredParameter}

theorem nameAndPlace (declared : DeclaredBy entry parameter) :
    nameAndPlace? entry = some parameter.nameAndPlace := by
  rcases declared with ⟨parts, _⟩
  apply (nameAndPlace?_eq_some_iff _ _ _).mpr
  exact ⟨parts.nameFound, ParameterLocation.eq_of_ofTree? parts.placeFound⟩

/-- An entry that declares a parameter is a mapping, identified by the texts of both. -/
theorem exists_key (declared : DeclaredBy entry parameter) : Exists fun entries =>
    Exists fun label => entry = .map entries label ∧
      parameterKey entries = .ok (.text parameter.name, .text parameter.location.text) := by
  have texts := declared.nameAndPlace
  rcases declared with ⟨parts, _⟩
  exact ⟨_, _, rfl, (parameterKey_eq_texts_iff _ _ _ _).mpr texts⟩

/-- A parameter that travels in the path is required. -/
theorem required (declared : DeclaredBy entry parameter) (inPath : parameter.location = .path) :
    parameter.required = true := by
  rcases declared with ⟨parts, _⟩
  dsimp only at inPath
  simp [inPath]

theorem of_readParameter {location : String}
    (readOk : readParameter location entry = .ok parameter) : DeclaredBy entry parameter := by
  rcases exists_parts_of_parameter location entry with
    ⟨violation, refused⟩ | ⟨entries, label, name, place, required, node, rfl, parts⟩
  · rw [readOk] at refused
    cases refused
  · rw [readParameter_of_parts parts] at readOk
    rcases Outcome.map_eq_ok_iff.mp readOk with ⟨schema, schemaRead, rfl⟩
    exact .intro parts ((readSchema_eq_ok_iff _ _ _).mp schemaRead)

end DeclaredBy

/-! ## Merging -/

/-- The entries of a path whose name and place an operation does not declare. -/
def notDeclaredAgain (pathLevel operationLevel : List Tree) : List Tree :=
  pathLevel.filter fun entry => nameAndPlace? entry ∉ operationLevel.map nameAndPlace?

/-- Where the entries of an operation declare parameters, an entry of the path gives way
exactly when one of them has its name and place. -/
theorem isOverridden_iff {operationLevel : List Tree}
    (declared : forall entry, entry ∈ operationLevel -> Exists fun parameter =>
      DeclaredBy entry parameter) (entry : Tree) :
    isOverridden (parameterKeys operationLevel) entry = true ↔
      nameAndPlace? entry ∈ operationLevel.map nameAndPlace? := by
  constructor
  · intro overridden
    rw [isOverridden.eq_def] at overridden
    split at overridden
    · next entries label =>
        split at overridden
        · next key identified =>
            have taken : key ∈ parameterKeys operationLevel := by simpa using overridden
            rcases (mem_parameterKeys_iff _ _).mp taken with ⟨inner, innerLabel, member, same⟩
            rcases declared _ member with ⟨parameter, declaredBy⟩
            have texts := declaredBy.nameAndPlace
            rw [(parameterKey_eq_texts_iff inner innerLabel _ _).mpr texts] at same
            cases same
            rw [(parameterKey_eq_texts_iff entries label _ _).mp identified]
            exact List.mem_map.mpr ⟨_, member, texts⟩
        · cases overridden
    · cases overridden
  · intro declaredAgain
    rcases List.mem_map.mp declaredAgain with ⟨other, member, same⟩
    rcases declared other member with ⟨parameter, declaredBy⟩
    have texts := declaredBy.nameAndPlace
    rw [same] at texts
    rcases declaredBy.exists_key with ⟨inner, innerLabel, rfl, otherKey⟩
    have nameFound := ((nameAndPlace?_eq_some_iff entry _ _).mp texts).1
    cases entry with
    | map entries label =>
        have identified := (parameterKey_eq_texts_iff entries label _ _).mpr texts
        simp only [isOverridden, identified, List.contains_iff_mem]
        exact (mem_parameterKeys_iff _ _).mpr ⟨inner, innerLabel, member, otherKey⟩
    | _ => cases nameFound

theorem mergeParameters_eq {operationLevel : List Tree}
    (declared : forall entry, entry ∈ operationLevel -> Exists fun parameter =>
      DeclaredBy entry parameter) (pathLevel : List Tree) :
    mergeParameters pathLevel operationLevel =
      notDeclaredAgain pathLevel operationLevel ++ operationLevel := by
  rw [mergeParameters, notDeclaredAgain]
  congr 1
  apply List.filter_congr
  intro entry _
  have same := isOverridden_iff declared entry
  cases overridden : isOverridden (parameterKeys operationLevel) entry <;> simp_all

/-- Two lists without duplicates have none when they are merged. -/
theorem nodup_parameterKeys_merge {pathLevel operationLevel : List Tree}
    (ofPath : Identified [] pathLevel) (ofOperation : Identified [] operationLevel) :
    (parameterKeys (mergeParameters pathLevel operationLevel)).Nodup := by
  rw [mergeParameters, parameterKeys_append]
  refine List.Nodup.append ?_ ofOperation.distinct ?_
  · exact (List.filter_sublist.filterMap _).nodup ofPath.distinct
  · intro key kept taken
    rcases (mem_parameterKeys_iff _ key).mp kept with ⟨entries, label, member, identified⟩
    have free := (List.mem_filter.mp member).2
    simp only [isOverridden, identified] at free
    have present : (parameterKeys operationLevel).contains key = true :=
      List.contains_iff_mem.mpr taken
    rw [present] at free
    cases free

theorem parameterKeys_of_declared {entries : List Tree} {parameters : List DeclaredParameter}
    (declared : List.Forall₂ DeclaredBy entries parameters) :
    parameterKeys entries = parameters.map fun parameter =>
      (.text parameter.name, .text parameter.location.text) := by
  induction declared with
  | nil => rfl
  | @cons entry parameter _ _ first _ ih =>
      rcases first.exists_key with ⟨inner, label, rfl, identified⟩
      rw [parameterKeys_cons_map identified, ih, List.map_cons]

/-- The parameters of an operation as the union of what its path and itself declare, the
operation coming first where both declare a name and a place. -/
structure RightBiasedUnion (pathLevel operationLevel : List Tree)
    (parameters : List DeclaredParameter) : Prop where
  inOrder : List.Forall₂ DeclaredBy
    (notDeclaredAgain pathLevel operationLevel ++ operationLevel) parameters
  distinct : (parameters.map fun parameter => (parameter.name, parameter.location)).Nodup
  complete : forall entry, entry ∈ pathLevel ++ operationLevel -> Exists fun parameter =>
    parameter ∈ parameters ∧ nameAndPlace? entry = some parameter.nameAndPlace
  ofOperation : forall parameter, parameter ∈ parameters ->
    forall entry, entry ∈ operationLevel -> nameAndPlace? entry = some parameter.nameAndPlace ->
      DeclaredBy entry parameter
  ofPath : forall parameter, parameter ∈ parameters ->
    (forall entry, entry ∈ operationLevel -> nameAndPlace? entry ≠ some parameter.nameAndPlace) ->
      (Exists fun entry => entry ∈ pathLevel ∧ DeclaredBy entry parameter) ∧
      forall entry, entry ∈ pathLevel -> nameAndPlace? entry = some parameter.nameAndPlace ->
        DeclaredBy entry parameter

theorem mem_notDeclaredAgain_iff {pathLevel operationLevel : List Tree} {entry : Tree} :
    entry ∈ notDeclaredAgain pathLevel operationLevel ↔
      entry ∈ pathLevel ∧ nameAndPlace? entry ∉ operationLevel.map nameAndPlace? := by
  rw [notDeclaredAgain, List.mem_filter, decide_eq_true_eq]

theorem exists_parameter_of_entry {entries : List Tree} {parameters : List DeclaredParameter}
    (inOrder : List.Forall₂ DeclaredBy entries parameters) {entry : Tree}
    (kept : entry ∈ entries) :
    Exists fun parameter => parameter ∈ parameters ∧
      nameAndPlace? entry = some parameter.nameAndPlace := by
  rcases Outcome.exists_right_of_forall₂ inOrder kept with ⟨parameter, member, declaredBy⟩
  exact ⟨parameter, member, declaredBy.nameAndPlace⟩

/-- Where parameters are told apart, an entry declares the one that has its name and place. -/
theorem declaredBy_of_nameAndPlace {entries : List Tree} {parameters : List DeclaredParameter}
    (inOrder : List.Forall₂ DeclaredBy entries parameters)
    (distinct : (parameters.map fun parameter => (parameter.name, parameter.location)).Nodup)
    {entry : Tree} {parameter : DeclaredParameter} (kept : entry ∈ entries)
    (member : parameter ∈ parameters) (texts : nameAndPlace? entry = some parameter.nameAndPlace) :
    DeclaredBy entry parameter := by
  rcases Outcome.exists_right_of_forall₂ inOrder kept with ⟨other, otherMember, declaredBy⟩
  rw [declaredBy.nameAndPlace] at texts
  rcases Prod.mk.inj (Option.some.inj texts) with ⟨sameName, sameText⟩
  have sameKey : (other.name, other.location) = (parameter.name, parameter.location) := by
    rw [sameName, ParameterLocation.text_injective sameText]
  rw [← List.inj_on_of_nodup_map distinct otherMember member sameKey]
  exact declaredBy

/-- Parameters that are told apart are the union of the entries that declare them. -/
theorem RightBiasedUnion.of_declared {pathLevel operationLevel : List Tree}
    {parameters : List DeclaredParameter}
    (inOrder : List.Forall₂ DeclaredBy
      (notDeclaredAgain pathLevel operationLevel ++ operationLevel) parameters)
    (distinct : (parameters.map fun parameter => (parameter.name, parameter.location)).Nodup) :
    RightBiasedUnion pathLevel operationLevel parameters where
  inOrder := inOrder
  distinct := distinct
  complete entry member := by
    rcases List.mem_append.mp member with inPath | inOperation
    · by_cases again : nameAndPlace? entry ∈ operationLevel.map nameAndPlace?
      · rcases List.mem_map.mp again with ⟨other, otherMember, same⟩
        rw [← same]
        exact exists_parameter_of_entry inOrder (List.mem_append_right _ otherMember)
      · have kept := mem_notDeclaredAgain_iff.mpr ⟨inPath, again⟩
        exact exists_parameter_of_entry inOrder (List.mem_append_left _ kept)
    · exact exists_parameter_of_entry inOrder (List.mem_append_right _ inOperation)
  ofOperation parameter member entry entryMember texts :=
    declaredBy_of_nameAndPlace inOrder distinct (List.mem_append_right _ entryMember) member texts
  ofPath parameter member undeclared := by
    constructor
    · rcases Outcome.exists_left_of_forall₂ inOrder member with ⟨entry, kept, declaredBy⟩
      rcases List.mem_append.mp kept with fromPath | fromOperation
      · exact ⟨entry, (mem_notDeclaredAgain_iff.mp fromPath).1, declaredBy⟩
      · exact absurd declaredBy.nameAndPlace (undeclared entry fromOperation)
    · intro entry entryMember texts
      have outside : nameAndPlace? entry ∉ operationLevel.map nameAndPlace? := by
        intro again
        rcases List.mem_map.mp again with ⟨other, otherMember, same⟩
        exact undeclared other otherMember (same.trans texts)
      have kept := mem_notDeclaredAgain_iff.mpr ⟨entryMember, outside⟩
      exact declaredBy_of_nameAndPlace inOrder distinct (List.mem_append_left _ kept) member texts

/-! ## Operations -/

/-- The list under the parameters of a path item or of an operation. -/
def parameterList (tree : Tree) : List Tree := (Tree.field "parameters" tree.entries).items

theorem rightBiasedUnion_of_readOperation {method : Method} {location : String}
    {pathLevel : List Tree} {entries : List (Tree × Tree)} {label : Option Label}
    {operation : Operation} (ofPath : Identified [] pathLevel)
    (readOk : readOperation method location pathLevel entries = .ok operation) :
    RightBiasedUnion pathLevel (parameterList (.map entries label)) operation.parameters := by
  rw [readOperation] at readOk
  simp only [Outcome.bind_eq_ok_iff, Outcome.pure_eq_ok_iff] at readOk
  rcases readOk with ⟨operationLevel, listed, _, unique, _, _, parameters, parametersRead, _, _, _,
    _, _, _, rfl⟩
  have ofOperation := (checkUnique_eq_ok_iff _ _ _).mp unique
  have sameList : parameterList (.map entries label) = operationLevel := (listOf_eq_ok listed).symm
  rw [readParameters_eq_mapM, Outcome.mapM_eq_ok_iff] at parametersRead
  have merged := parametersRead.imp fun _ _ one => DeclaredBy.of_readParameter one
  have declared : forall entry, entry ∈ operationLevel -> Exists fun parameter =>
      DeclaredBy entry parameter := by
    intro entry member
    have kept : entry ∈ mergeParameters pathLevel operationLevel := List.mem_append_right _ member
    rcases Outcome.exists_right_of_forall₂ merged kept with ⟨parameter, _, declaredBy⟩
    exact ⟨parameter, declaredBy⟩
  have distinct := nodup_parameterKeys_merge ofPath ofOperation
  rw [parameterKeys_of_declared merged] at distinct
  rw [mergeParameters_eq declared] at merged
  rw [sameList]
  apply RightBiasedUnion.of_declared merged
  apply List.Nodup.of_map fun key : String × ParameterLocation =>
    (Identity.text key.1, Identity.text key.2.text)
  rw [List.map_map]
  exact distinct

/-- The operation of a path item, under the method that its key names. -/
structure OperationMerged (item : Tree) (named : Method × Tree × Tree) (operation : Operation) :
    Prop where
  method : operation.method = named.1
  parameters :
    RightBiasedUnion (parameterList item) (parameterList named.2.2) operation.parameters

/-- A path of a document with the operations that its entry declares. -/
structure PathMerged (entry : Tree × Tree) (path : String × List Operation) : Prop where
  template : entry.1 = .str path.1
  operations : List.Forall₂ (OperationMerged entry.2) (methodEntries entry.2.entries) path.2

theorem pathMerged_of_readPath {entry : Tree × Tree} {path : String × List Operation}
    (readOk : readPath entry = .ok path) : PathMerged entry path := by
  rcases (readPath_eq_ok_iff entry path).mp readOk with ⟨named, entries, label, isMap, _, itemRead⟩
  rcases (readPathItem_eq_ok_iff _ _ _).mp itemRead with ⟨pathLevel, listed, unique, operationsRead⟩
  rcases (readOperations_eq_ok_iff _ _ _ _ _).mp operationsRead with ⟨_, _, _, allRead⟩
  have ofPath := (checkUnique_eq_ok_iff _ _ _).mp unique
  have sameList : parameterList entry.2 = pathLevel := by
    rw [isMap]
    exact (listOf_eq_ok listed).symm
  refine ⟨pathOf?_eq_some named, ?_⟩
  rw [isMap]
  apply ((Outcome.mapM_eq_ok_iff _ _ _).mp allRead).imp
  intro declaration operation operationRead
  rcases declaration with ⟨method, key, value⟩
  cases value with
  | map inner innerLabel =>
      refine ⟨(operationOf_of_eq_ok operationRead).method, ?_⟩
      rw [← isMap, sameList]
      exact rightBiasedUnion_of_readOperation ofPath operationRead
  | _ => cases operationRead

/-- In every document that is read, the operations of each path are those that its entries
declare, and each has the right-biased union of the parameters that its path and itself
declare. -/
theorem parameters_of_read {tree : Tree} {document : Document}
    (readOk : read tree = .ok document) :
    Exists fun pairs => document.paths = Keyed.ofList pairs ∧
      (tree.isWellKeyed = true -> document.paths = pairs) ∧
      List.Forall₂ PathMerged (pathEntries tree) pairs := by
  rcases exists_pairs_of_paths readOk with ⟨pairs, table, pairsRead⟩
  refine ⟨pairs, table, ?_, pairsRead.imp fun _ _ one => pathMerged_of_readPath one⟩
  intro wellKeyed
  have distinct : (Keyed.keys pairs).Nodup := by
    rw [← keys_of_paths pairsRead]
    apply nodup_paths _ pairsRead
    exact Tree.nodup_keys_of_isWellKeyed (Tree.isWellKeyed_field wellKeyed "paths")
  rw [table, Keyed.ofList_of_nodup distinct]

/-- A path with two parameters, of which its operation declares the second anew. -/
def overridingTree : Tree :=
  let parameter (name place type : String) : Tree := .object [("name", .str name),
    ("in", .str place), ("schema", .object [("type", .str type)])]
  .object [("paths", .object [("/a/{id}", .object [
    ("parameters", .list [parameter "id" "path" "string", parameter "q" "query" "string"] none),
    ("get", .object [("parameters", .list [parameter "q" "query" "integer"] none)])])])]

/-- The parameter of the path is required though it does not say so, and the other one is that
of the operation. -/
theorem parameters_of_overridingTree : Exists fun document =>
    read overridingTree = .ok document ∧
      document.paths.flatMap (fun path => path.2.flatMap fun operation =>
        operation.parameters.map fun parameter => (parameter.name, parameter.required)) =
          [("id", true), ("q", false)] ∧
      Exists fun pairs => document.paths = Keyed.ofList pairs ∧
        (overridingTree.isWellKeyed = true -> document.paths = pairs) ∧
        List.Forall₂ PathMerged (pathEntries overridingTree) pairs := by
  have accepted : Exists fun document => read overridingTree = .ok document :=
    Outcome.exists_of_isOk (by decide +kernel)
  rcases accepted with ⟨document, readOk⟩
  refine ⟨document, readOk, ?_, parameters_of_read readOk⟩
  apply Outcome.part_eq_of_computed readOk fun document => document.paths.flatMap fun path =>
    path.2.flatMap fun operation =>
      operation.parameters.map fun parameter => (parameter.name, parameter.required)
  decide +kernel

end Document
end RouteIR
