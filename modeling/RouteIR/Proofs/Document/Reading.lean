import RouteIR.Document.Reading
import RouteIR.Proofs.Schema.Reading
import RouteIR.Proofs.Tree.Keys

namespace RouteIR

/-!
# What reading a document goes through

Each section of a document is read by a pass over its entries.  A parameter, a body or a
response is checked first and then read as the schema at one place of it; the lemmas here
say which place that is, and that nothing but a rule refuses the rest.  The entries of a
path item are gone through once, and only those that name a method are read.
-/

/-- A rule on the form of a document or on what is supported of the language, and not on what
the document says. -/
inductive Rule.Formal : Rule -> Prop
  | malformed (reason : Malformation) : Formal (.malformed reason)
  | unsupported (feature : Feature) : Formal (.unsupported feature)

namespace Document

theorem readSchema_eq_ok_iff (location : String) (node : Tree) (schema : Schema) :
    readSchema location node = .ok schema ↔ Schema.read node = .ok schema :=
  Outcome.mapError_eq_ok_iff

/-! ## Passes -/

/-- The schema of a component under its name. -/
def readComponent (entry : Tree × Tree) : Except Failure (String × Schema) :=
  (entry.1.withText .illegible
    (readSchema ("components.schemas." ++ entry.1.display) entry.2)).map (entry.1.display, ·)

theorem readComponentList_eq_mapM (entries : List (Tree × Tree)) :
    readComponentList entries = entries.mapM readComponent := by
  induction entries with
  | nil => rfl
  | cons entry rest ih =>
      rw [readComponentList, ih, List.mapM_cons, readComponent]
      cases entry.1.withText Failure.illegible
        (readSchema ("components.schemas." ++ entry.1.display) entry.2) <;> rfl

theorem readParameters_eq_mapM (location : String) (parameters : List Tree) :
    readParameters location parameters = parameters.mapM (readParameter location) := by
  induction parameters with
  | nil => rfl
  | cons parameter rest ih => rw [readParameters, ih, List.mapM_cons]

/-- The schema of a response under its status. -/
def readResponse (location : String) (entry : Tree × Tree) :
    Except Failure (String × Option Schema) :=
  (entry.1.withText .illegible (readBody (location ++ "." ++ entry.1.display) entry.2)).map
    (entry.1.display, ·)

theorem readResponses_eq_mapM (location : String) (entries : List (Tree × Tree)) :
    readResponses location entries = entries.mapM (readResponse location) := by
  induction entries with
  | nil => rfl
  | cons entry rest ih =>
      rw [readResponses, ih, List.mapM_cons, readResponse]
      cases entry.1.withText Failure.illegible
        (readBody (location ++ "." ++ entry.1.display) entry.2) <;> rfl

/-- The operations of a path under its template. -/
def readPath (entry : Tree × Tree) : Except Failure (String × List Operation) :=
  entry.1.withText .illegible <|
  let here := "paths." ++ entry.1.display
  match pathOf? entry.1 with
  | none => malformed here .pathWithoutSlash
  | some path =>
      match entry.2 with
      | .map entries _ =>
          match Tree.lookup? "$ref" entries with
          | some target => .error (.ofRule here (Reference.refuse target .pathItemReference))
          | none => (readPathItem here entries).map (path, ·)
      | _ => malformed here .pathItemNotMapping

theorem readPathList_eq_mapM (entries : List (Tree × Tree)) :
    readPathList entries = entries.mapM readPath := by
  induction entries with
  | nil => rfl
  | cons entry rest ih =>
      rcases entry with ⟨key, item⟩
      rw [readPathList, ih, List.mapM_cons, readPath, Tree.withText, Tree.withText]
      cases key.isLegible with
      | false => rfl
      | true =>
          cases pathOf? key with
          | none => rfl
          | some path =>
              cases item with
              | map entries label =>
                  dsimp only
                  cases Tree.lookup? "$ref" entries with
                  | some target => rfl
                  | none => cases readPathItem ("paths." ++ key.display) entries <;> rfl
              | _ => rfl

theorem readComponent_eq_ok_iff (entry : Tree × Tree) (component : String × Schema) :
    readComponent entry = .ok component ↔ entry.1.isLegible = true ∧
      component.1 = entry.1.display ∧ Schema.read entry.2 = .ok component.2 := by
  rw [readComponent, Outcome.map_eq_ok_iff]
  simp only [Tree.withText_eq_ok_iff, readSchema_eq_ok_iff]
  constructor
  · rintro ⟨schema, ⟨legible, schemaRead⟩, rfl⟩
    exact ⟨legible, rfl, schemaRead⟩
  · rintro ⟨legible, name, schemaRead⟩
    exact ⟨component.2, ⟨legible, schemaRead⟩, by rw [← name]⟩

/-- The components of a document are a table of what the entries under its schemas are read
as. -/
theorem exists_pairs_of_components {tree : Tree} {components : List (String × Schema)}
    (readOk : readComponents tree = .ok components) :
    Exists fun pairs => components = Keyed.ofList pairs ∧
      List.Forall₂ (fun entry component => readComponent entry = .ok component)
        (Tree.field "schemas" tree.entries).entries pairs := by
  unfold readComponents at readOk
  split at readOk
  · cases readOk
    exact ⟨[], rfl, .nil⟩
  · next sections label =>
      rw [Tree.entries]
      split at readOk
      · next absent =>
          cases readOk
          rw [absent]
          exact ⟨[], rfl, .nil⟩
      · next schemas schemasLabel found =>
          rcases Outcome.map_eq_ok_iff.mp readOk with ⟨pairs, pairsRead, same⟩
          rw [readComponentList_eq_mapM, Outcome.mapM_eq_ok_iff] at pairsRead
          rw [found]
          exact ⟨pairs, same.symm, pairsRead⟩
      · cases readOk
  · cases readOk

/-! ## Parameters -/

/-- The parts of a parameter that is well-formed up to its schema. -/
structure ParameterParts (entries : List (Tree × Tree)) (name : String)
    (place : ParameterLocation) (required : Bool) (node : Tree) : Prop where
  plain : Tree.lookup? "$ref" entries = none
  nameFound : Tree.field "name" entries = .str name
  nameFilled : name.isEmpty = false
  placeFound : ParameterLocation.ofTree? (Tree.field "in" entries) = some place
  schemaFound : Tree.lookup? "schema" entries = some node
  requiredFound : (Tree.lookup? "required" entries).getD (.bool false) = .bool required

theorem not_cookie_of_place {tree : Tree} {place : ParameterLocation}
    (known : ParameterLocation.ofTree? tree = some place) : tree.isText "cookie" = false := by
  cases cookie : tree.isText "cookie" with
  | false => rfl
  | true =>
      cases tree with
      | str text =>
          have same : text = "cookie" := of_decide_eq_true cookie
          rw [same] at known
          cases known
      | _ => cases cookie

/-- A parameter that is well-formed up to its schema is read as that schema. -/
theorem readParameter_of_parts {entries : List (Tree × Tree)} {name : String}
    {place : ParameterLocation} {required : Bool} {node : Tree}
    (parts : ParameterParts entries name place required node) (location : String)
    (label : Option Label) :
    readParameter location (.map entries label) =
      (readSchema (location ++ "." ++ name ++ ".schema") node).map fun schema =>
        ⟨name, place, required || place = .path, schema⟩ := by
  simp only [readParameter, parts.plain, parts.nameFound, parts.nameFilled, parts.placeFound,
    parts.schemaFound, parts.requiredFound, not_cookie_of_place parts.placeFound,
    Bool.false_eq_true, if_false]
  cases readSchema (location ++ "." ++ name ++ ".schema") node <;> rfl

/-- A parameter that is not well-formed up to its schema is refused for its form, or for
something that is not supported. -/
theorem formal_or_parts_of_parameter (location : String) (parameter : Tree) :
    (Exists fun place => Exists fun rule => rule.Formal ∧
      readParameter location parameter = .error (.rule ⟨place, rule⟩)) ∨
      Exists fun entries => Exists fun label => Exists fun name => Exists fun place =>
        Exists fun required => Exists fun node =>
          parameter = .map entries label ∧ ParameterParts entries name place required node := by
  unfold readParameter
  split
  · next entries label =>
      split
      · exact Or.inl ⟨_, _, .unsupported _, rfl⟩
      · next plain =>
          split
          · next name nameFound =>
              split
              · exact Or.inl ⟨_, _, .malformed _, rfl⟩
              · next nameFilled =>
                  dsimp only
                  split
                  · exact Or.inl ⟨_, _, .unsupported _, rfl⟩
                  · split
                    · exact Or.inl ⟨_, _, .malformed _, rfl⟩
                    · next place placeFound =>
                        split
                        · split
                          · exact Or.inl ⟨_, _, .unsupported _, rfl⟩
                          · exact Or.inl ⟨_, _, .malformed _, rfl⟩
                        · next node schemaFound =>
                            split
                            · next required requiredFound =>
                                refine Or.inr ⟨entries, label, name, place, required, node, rfl, ?_⟩
                                exact ⟨plain, nameFound, by simpa using nameFilled, placeFound,
                                  schemaFound, requiredFound⟩
                            · exact Or.inl ⟨_, _, .malformed _, rfl⟩
          · exact Or.inl ⟨_, _, .malformed _, rfl⟩
  · exact Or.inl ⟨_, _, .malformed _, rfl⟩

/-- A parameter that is not well-formed up to its schema violates a rule. -/
theorem exists_parts_of_parameter (location : String) (parameter : Tree) :
    (Exists fun violation => readParameter location parameter = .error (.rule violation)) ∨
      Exists fun entries => Exists fun label => Exists fun name => Exists fun place =>
        Exists fun required => Exists fun node =>
          parameter = .map entries label ∧ ParameterParts entries name place required node := by
  rcases formal_or_parts_of_parameter location parameter with ⟨place, rule, _, refused⟩ | parts
  · exact Or.inl ⟨⟨place, rule⟩, refused⟩
  · exact Or.inr parts

/-! ## Bodies -/

/-- Where a body that is well-formed up to its schema carries one. -/
inductive CarriesSchema : Tree -> Tree -> Prop
  | direct {entries : List (Tree × Tree)} {label : Option Label} {node : Tree}
      (plain : Tree.lookup? "$ref" entries = none)
      (found : Tree.lookup? "schema" entries = some node) :
      CarriesSchema (.map entries label) node
  | media {entries media : List (Tree × Tree)} {label mediaLabel : Option Label}
      {mediaType node : Tree} (plain : Tree.lookup? "$ref" entries = none)
      (absent : Tree.lookup? "schema" entries = none)
      (content : Tree.field "content" entries = .map media mediaLabel)
      (first : firstMedia? media = some (mediaType, node)) :
      CarriesSchema (.map entries label) node

/-- The schema of a body stands under a media type that has no text. -/
inductive HidesSchema : Tree -> Prop
  | media {entries media : List (Tree × Tree)} {label mediaLabel : Option Label}
      {mediaType node : Tree} (plain : Tree.lookup? "$ref" entries = none)
      (absent : Tree.lookup? "schema" entries = none)
      (content : Tree.field "content" entries = .map media mediaLabel)
      (first : firstMedia? media = some (mediaType, node))
      (unknown : mediaType.isLegible = false) : HidesSchema (.map entries label)

theorem readBody_of_hides {body : Tree} (hides : HidesSchema body) (location : String) :
    readBody location body = .error .illegible := by
  cases hides with
  | media plain absent content first unknown =>
      simp only [readBody, plain, absent, content, first, Tree.withText_of_not_isLegible unknown]

theorem not_hides_of_eq_ok {location : String} {body : Tree} {schema : Option Schema}
    (readOk : readBody location body = .ok schema) : ¬ HidesSchema body := by
  intro hides
  rw [readBody_of_hides hides] at readOk
  cases readOk

/-- A body that carries a schema and does not hide it is read as that schema. -/
theorem readBody_of_carries {body node : Tree} (carries : CarriesSchema body node)
    (shown : ¬ HidesSchema body) (location : String) :
    Exists fun place => readBody location body = (readSchema place node).map some := by
  cases carries with
  | direct plain found => exact ⟨location ++ ".schema", by simp only [readBody, plain, found]⟩
  | @media _ _ _ _ mediaType _ plain absent content first =>
      have legible : mediaType.isLegible = true := by
        by_contra unknown
        exact shown (.media plain absent content first (Bool.eq_false_iff.mpr unknown))
      refine ⟨location ++ ".content." ++ mediaType.display ++ ".schema", ?_⟩
      simp only [readBody, plain, absent, content, first, Tree.withText_of_isLegible legible]

/-- A body that carries no schema is read as none, or refused for its form or for something
that is not supported. -/
theorem formal_or_carries_of_body (location : String) (body : Tree) :
    readBody location body = .ok none ∨
      (Exists fun place => Exists fun rule => rule.Formal ∧
        readBody location body = .error (.rule ⟨place, rule⟩)) ∨
      Exists fun node => CarriesSchema body node := by
  unfold readBody
  split
  · exact Or.inl rfl
  · next entries label =>
      split
      · exact Or.inr (Or.inl ⟨_, _, .unsupported _, rfl⟩)
      · next plain =>
          split
          · next node found => exact Or.inr (Or.inr ⟨node, .direct plain found⟩)
          · next absent =>
              split
              · exact Or.inl rfl
              · next media mediaLabel content =>
                  split
                  · exact Or.inl rfl
                  · next mediaType node first =>
                      exact Or.inr (Or.inr ⟨node, .media plain absent content first⟩)
              · exact Or.inr (Or.inl ⟨_, _, .malformed _, rfl⟩)
  · exact Or.inr (Or.inl ⟨_, _, .malformed _, rfl⟩)

/-- A body that carries no schema is read as none, or violates a rule. -/
theorem exists_carries_of_body (location : String) (body : Tree) :
    readBody location body = .ok none ∨
      (Exists fun violation => readBody location body = .error (.rule violation)) ∨
      Exists fun node => CarriesSchema body node := by
  rcases formal_or_carries_of_body location body with empty | ⟨place, rule, _, refused⟩ | carries
  · exact Or.inl empty
  · exact Or.inr (Or.inl ⟨⟨place, rule⟩, refused⟩)
  · exact Or.inr (Or.inr carries)

/-- Whatever is empty has no entries, and anything else has to be a mapping. -/
theorem responsesOf_eq_ok {location : String} {responses : Tree} {entries : List (Tree × Tree)}
    (found : responsesOf location responses = .ok entries) : entries = responses.entries := by
  unfold responsesOf at found
  split at found
  · next empty =>
      cases found
      cases responses with
      | map inner label => exact (List.isEmpty_iff.mp empty).symm
      | _ => rfl
  · split at found
    · cases found
      rfl
    · cases found

/-! ## Entries of a path item -/

section Entries

variable (location : String) (pathParameters : List Tree) (seen : List Method)

theorem readOperations_illegible {key : Tree} (unknown : key.isLegible = false) (value : Tree)
    (rest : List (Tree × Tree)) :
    readOperations location pathParameters seen ((key, value) :: rest) = .error .illegible := by
  rw [readOperations, Tree.withText_of_not_isLegible unknown]

theorem readOperations_unnamed {key : Tree} (legible : key.isLegible = true)
    (unnamed : Method.ofKey? key = none) (value : Tree) (rest : List (Tree × Tree)) :
    readOperations location pathParameters seen ((key, value) :: rest) =
      readOperations location pathParameters seen rest := by
  simp only [readOperations, unnamed, Tree.withText_of_isLegible legible]

theorem readOperations_named {key : Tree} {method : Method} (legible : key.isLegible = true)
    (named : Method.ofKey? key = some method) (fresh : method ∉ seen)
    (inner rest : List (Tree × Tree)) (label : Option Label) :
    readOperations location pathParameters seen ((key, .map inner label) :: rest) = (do
      let operation ← readOperation method (location ++ "." ++ key.display) pathParameters inner
      let others ← readOperations location pathParameters (method :: seen) rest
      return operation :: others) := by
  have absent : seen.contains method = false := by simpa using fresh
  simp only [readOperations, named, absent, Bool.false_eq_true, if_false,
    Tree.withText_of_isLegible legible]

theorem readOperations_refused {key value : Tree} {method : Method}
    (legible : key.isLegible = true) (named : Method.ofKey? key = some method)
    (refused : method ∈ seen ∨ forall inner label, value ≠ .map inner label)
    (rest : List (Tree × Tree)) : Exists fun violation =>
      readOperations location pathParameters seen ((key, value) :: rest) =
        .error (.rule violation) := by
  by_cases taken : method ∈ seen
  · have present : seen.contains method = true := by simpa using taken
    simp only [readOperations, named, present, if_true, Tree.withText_of_isLegible legible]
    exact ⟨_, rfl⟩
  · have absent : seen.contains method = false := by simpa using taken
    simp only [readOperations, named, absent, Bool.false_eq_true, if_false,
      Tree.withText_of_isLegible legible]
    cases value with
    | map inner label => exact absurd rfl (refused.resolve_left taken inner label)
    | _ => exact ⟨_, rfl⟩

/-- An entry of a path item has a key without a text, or names no method, or is an operation
under a new method, or is refused. -/
inductive EntryCases : Tree × Tree -> Prop
  | illegible {key value : Tree} (unknown : key.isLegible = false) : EntryCases (key, value)
  | unnamed {key value : Tree} (legible : key.isLegible = true)
      (unnamed : Method.ofKey? key = none) : EntryCases (key, value)
  | operation {key : Tree} {method : Method} {inner : List (Tree × Tree)} {label : Option Label}
      (legible : key.isLegible = true) (named : Method.ofKey? key = some method)
      (fresh : method ∉ seen) : EntryCases (key, .map inner label)
  | refused {key value : Tree} {method : Method} (legible : key.isLegible = true)
      (named : Method.ofKey? key = some method)
      (refused : method ∈ seen ∨ forall inner label, value ≠ .map inner label) :
      EntryCases (key, value)

theorem entryCases (entry : Tree × Tree) : EntryCases seen entry := by
  rcases entry with ⟨key, value⟩
  cases legible : key.isLegible with
  | false => exact .illegible legible
  | true =>
      cases named : Method.ofKey? key with
      | none => exact .unnamed legible named
      | some method =>
          by_cases taken : method ∈ seen
          · exact .refused legible named (Or.inl taken)
          · cases value with
            | map inner label => exact .operation legible named taken
            | _ => exact .refused legible named (Or.inr nofun)

end Entries

/-- The entries of a path item that name a method, each with its method. -/
def methodEntries (entries : List (Tree × Tree)) : List (Method × Tree × Tree) :=
  entries.filterMap fun entry => (Method.ofKey? entry.1).map (·, entry)

/-- The operation of an entry that names a method. -/
def readNamed (location : String) (pathParameters : List Tree) (named : Method × Tree × Tree) :
    Except Failure Operation :=
  let here := location ++ "." ++ named.2.1.display
  match named.2.2 with
  | .map entries _ => readOperation named.1 here pathParameters entries
  | _ => malformed here .operationNotMapping

/-- The operations of a path item are those of its entries that name a method, in their
order, where these methods are new and none is named twice, and where every key has a text. -/
theorem readOperations_eq_ok_iff (location : String) (pathParameters : List Tree)
    (seen : List Method) (entries : List (Tree × Tree)) (operations : List Operation) :
    readOperations location pathParameters seen entries = .ok operations ↔
      Tree.keysAreLegible entries = true ∧
      ((methodEntries entries).map (·.1)).Nodup ∧
      (forall method, method ∈ (methodEntries entries).map (·.1) -> method ∉ seen) ∧
      (methodEntries entries).mapM (readNamed location pathParameters) = .ok operations := by
  induction entries generalizing seen operations with
  | nil => simp [readOperations, methodEntries, Tree.keysAreLegible, Outcome.pure_eq_ok_iff]
  | cons entry rest ih =>
      cases entryCases seen entry with
      | @illegible key value unknown =>
          rw [readOperations_illegible _ _ _ unknown, Tree.keysAreLegible_cons, unknown]
          simp
      | @unnamed key value legible unnamed =>
          have same : methodEntries ((key, value) :: rest) = methodEntries rest := by
            simp [methodEntries, unnamed]
          rw [readOperations_unnamed _ _ _ legible unnamed, same, ih, Tree.keysAreLegible_cons,
            legible, Bool.true_and]
      | @operation key method inner label legible named fresh =>
          have first : methodEntries ((key, .map inner label) :: rest) =
              (method, key, .map inner label) :: methodEntries rest := by
            simp [methodEntries, named]
          rw [readOperations_named _ _ _ legible named fresh, first, List.mapM_cons, List.map_cons,
            List.nodup_cons, Tree.keysAreLegible_cons, legible, Bool.true_and]
          simp only [Outcome.bind_eq_ok_iff, Outcome.pure_eq_ok_iff, ih, readNamed, List.mem_cons]
          constructor
          · rintro ⟨one, oneRead, others, ⟨areLegible, distinct, apart, othersRead⟩, rfl⟩
            refine ⟨areLegible, ⟨?_, distinct⟩, ?_, one, oneRead, others, othersRead, rfl⟩
            · exact fun again => apart method again (Or.inl rfl)
            · rintro other (rfl | later)
              · exact fresh
              · exact fun old => apart other later (Or.inr old)
          · rintro ⟨areLegible, ⟨once, distinct⟩, apart, one, oneRead, others, othersRead, rfl⟩
            refine ⟨one, oneRead, others, ⟨areLegible, distinct, ?_, othersRead⟩, rfl⟩
            rintro other later (rfl | old)
            · exact once later
            · exact apart other (Or.inr later) old
      | @refused key value method legible named refused =>
          have first : methodEntries ((key, value) :: rest) =
              (method, key, value) :: methodEntries rest := by
            simp [methodEntries, named]
          rcases readOperations_refused location pathParameters seen legible named refused rest with
            ⟨violation, failed⟩
          rw [failed, first, List.mapM_cons]
          constructor
          · rintro ⟨⟩
          · rintro ⟨_, _, apart, readOk⟩
            have fresh : method ∉ seen := apart method List.mem_cons_self
            rcases Outcome.bind_eq_ok_iff.mp readOk with ⟨one, oneRead, _⟩
            cases value with
            | map inner label => exact absurd rfl (refused.resolve_left fresh inner label)
            | _ => cases oneRead

/-! ## Paths -/

theorem pathOf?_eq_some {key : Tree} {path : String} (found : pathOf? key = some path) :
    key = .str path := by
  cases key with
  | str text =>
      rw [pathOf?] at found
      split at found
      · rw [Option.some.inj found]
      · cases found
  | _ => cases found

theorem isLegible_of_pathOf? {key : Tree} {path : String} (found : pathOf? key = some path) :
    key.isLegible = true := by
  rw [pathOf?_eq_some found]
  rfl

theorem readPath_eq_ok_iff (entry : Tree × Tree) (path : String × List Operation) :
    readPath entry = .ok path ↔ pathOf? entry.1 = some path.1 ∧
      Exists fun entries => Exists fun label => entry.2 = .map entries label ∧
        Tree.lookup? "$ref" entries = none ∧
        readPathItem ("paths." ++ entry.1.display) entries = .ok path.2 := by
  rcases entry with ⟨key, item⟩
  rcases path with ⟨text, operations⟩
  constructor
  · intro readOk
    unfold readPath at readOk
    replace readOk := (Tree.withText_eq_ok_iff.mp readOk).2
    dsimp only at readOk
    split at readOk
    · cases readOk
    · next template found =>
        split at readOk
        · next entries label =>
            split at readOk
            · cases readOk
            · next plain =>
                rcases Outcome.map_eq_ok_iff.mp readOk with ⟨others, operationsRead, same⟩
                cases same
                exact ⟨found, entries, label, rfl, plain, operationsRead⟩
        · cases readOk
  · rintro ⟨found, entries, label, rfl, plain, operationsRead⟩
    dsimp only at found operationsRead
    simp only [readPath, found, plain, operationsRead,
      Tree.withText_of_isLegible (isLegible_of_pathOf? found)]
    rfl

section PathTexts

variable {entries : List (Tree × Tree)} {pairs : List (String × List Operation)}

/-- Paths that were read stand under the texts that are their keys. -/
theorem texts_of_paths
    (pairsRead : List.Forall₂ (fun entry path => readPath entry = .ok path) entries pairs) :
    List.Forall₂ (fun entry path => entry.1 = .str path.1) entries pairs := by
  refine pairsRead.imp ?_
  intro entry path readOk
  exact pathOf?_eq_some ((readPath_eq_ok_iff entry path).mp readOk).1

theorem keys_of_paths
    (pairsRead : List.Forall₂ (fun entry path => readPath entry = .ok path) entries pairs) :
    entries.map (·.1.display) = Keyed.keys pairs := by
  refine Outcome.map_eq_map_of_forall₂ (texts_of_paths pairsRead) ?_
  intro entry path isText
  rw [isText, Tree.display]

/-- Where keys differ no path replaces another. -/
theorem nodup_paths (distinct : (entries.map Tree.keyIdentity).Nodup)
    (pairsRead : List.Forall₂ (fun entry path => readPath entry = .ok path) entries pairs) :
    (entries.map (·.1.display)).Nodup := by
  refine Tree.nodup_texts distinct ?_
  intro entry member
  rcases Outcome.exists_right_of_forall₂ (texts_of_paths pairsRead) member with ⟨path, _, isText⟩
  exact ⟨path.1, isText⟩

end PathTexts

theorem readPathItem_eq_ok_iff (location : String) (entries : List (Tree × Tree))
    (operations : List Operation) :
    readPathItem location entries = .ok operations ↔ Exists fun pathParameters =>
      listOf (location ++ ".parameters") (Tree.field "parameters" entries) = .ok pathParameters ∧
      checkUnique (location ++ ".parameters") [] pathParameters = .ok () ∧
      readOperations location pathParameters [] entries = .ok operations := by
  rw [readPathItem]
  simp only [Outcome.bind_eq_ok_iff]
  constructor
  · rintro ⟨pathParameters, found, ⟨⟩, unique, operationsRead⟩
    exact ⟨pathParameters, found, unique, operationsRead⟩
  · rintro ⟨pathParameters, found, unique, operationsRead⟩
    exact ⟨pathParameters, found, (), unique, operationsRead⟩

theorem readPaths_eq_ok_iff (entries : List (Tree × Tree))
    (paths : List (String × List Operation)) :
    readPaths entries = .ok paths ↔ Exists fun pathEntries => Exists fun label =>
      Tree.lookup? "paths" entries = some (.map pathEntries label) ∧
      Exists fun pairs => List.Forall₂ (fun entry path => readPath entry = .ok path)
        pathEntries pairs ∧ paths = Keyed.ofList pairs := by
  constructor
  · intro readOk
    unfold readPaths at readOk
    split at readOk
    · cases readOk
    · next pathEntries label found =>
        rcases Outcome.map_eq_ok_iff.mp readOk with ⟨pairs, pairsRead, same⟩
        rw [readPathList_eq_mapM, Outcome.mapM_eq_ok_iff] at pairsRead
        exact ⟨pathEntries, label, found, pairs, pairsRead, same.symm⟩
    · cases readOk
  · rintro ⟨pathEntries, label, found, pairs, pairsRead, rfl⟩
    rw [← Outcome.mapM_eq_ok_iff, ← readPathList_eq_mapM] at pairsRead
    simp only [readPaths, found, pairsRead]
    rfl

theorem read_eq_ok_iff (tree : Tree) (document : Document) :
    read tree = .ok document ↔ Exists fun entries => Exists fun label =>
      tree = .map entries label ∧ checkVersion entries = .ok () ∧
        readComponents (Tree.field "components" entries) = .ok document.components ∧
        readPaths entries = .ok document.paths := by
  constructor
  · intro readOk
    unfold read at readOk
    split at readOk
    · next entries label =>
        simp only [Outcome.bind_eq_ok_iff, Outcome.pure_eq_ok_iff] at readOk
        rcases readOk with ⟨⟨⟩, checked, components, componentsRead, paths, pathsRead, rfl⟩
        exact ⟨entries, label, rfl, checked, componentsRead, pathsRead⟩
    · cases readOk
  · rintro ⟨entries, label, rfl, checked, componentsRead, pathsRead⟩
    simp only [read, checked, componentsRead, pathsRead]
    rfl

end Document
end RouteIR
