import Mathlib.Data.List.Nodup
import RouteIR.Proofs.Keyed
import RouteIR.Proofs.Outcome
import RouteIR.Proofs.Tree.Keys
import RouteIR.Schema.Reading

namespace RouteIR

/-!
# Schemas that reading makes

Reading goes along a tree, and the form of a node decides which of its parts are read.
The induction principle of this module states one case for each form that has a schema,
with what each check has found.  The first property proved through it is that no
enumeration in a schema holds two literals that count as one.
-/

namespace Literal

/-- One step towards distinct literals: those kept so far, and what they count as. -/
def keepNew (found : List Literal × List Identity) (literal : Literal) :
    List Literal × List Identity :=
  if found.2.contains literal.identity then found
  else (found.1 ++ [literal], literal.identity :: found.2)

/-- The literals kept so far count as what was seen, each once. -/
structure Kept (found : List Literal × List Identity) : Prop where
  seen : forall one, one ∈ found.2 ↔ one ∈ found.1.map identity
  unique : (found.1.map identity).Nodup

theorem Kept.keepNew {found : List Literal × List Identity} (kept : Kept found)
    (literal : Literal) : Kept (keepNew found literal) := by
  unfold Literal.keepNew
  by_cases old : literal.identity ∈ found.2
  · rw [if_pos (by simpa using old)]
    exact kept
  · rw [if_neg (by simpa using old)]
    constructor
    · intro one
      simp [kept.seen, or_comm]
    · rw [List.map_append, List.map_singleton]
      refine List.Nodup.append kept.unique (List.nodup_singleton _) ?_
      rw [List.disjoint_singleton, ← kept.seen]
      exact old

theorem Kept.foldl {found : List Literal × List Identity} (kept : Kept found)
    (literals : List Literal) : Kept (literals.foldl Literal.keepNew found) := by
  induction literals generalizing found with
  | nil => exact kept
  | cons literal rest ih => exact ih (kept.keepNew literal)

theorem Kept.empty : Kept ([], []) := ⟨by simp, List.nodup_nil⟩

theorem distinct_eq_foldl (literals : List Literal) :
    distinct literals = (literals.foldl keepNew ([], [])).1 := rfl

/-- Of the literals that count as one the first is kept. -/
theorem nodup_distinct (literals : List Literal) :
    ((distinct literals).map identity).Nodup := by
  rw [distinct_eq_foldl]
  exact (Kept.empty.foldl literals).unique

theorem mem_foldl_keepNew {found : List Literal × List Identity} {literals : List Literal}
    {literal : Literal} (member : literal ∈ (literals.foldl keepNew found).1) :
    literal ∈ found.1 ∨ literal ∈ literals := by
  induction literals generalizing found with
  | nil => exact Or.inl member
  | cons first rest ih =>
      rcases ih member with kept | later
      · rw [keepNew] at kept
        split at kept
        · exact Or.inl kept
        · rcases List.mem_append.mp kept with old | new
          · exact Or.inl old
          · rw [List.mem_singleton.mp new]
            exact Or.inr List.mem_cons_self
      · exact Or.inr (List.mem_cons_of_mem _ later)

theorem mem_of_mem_distinct {literals : List Literal} {literal : Literal}
    (member : literal ∈ distinct literals) : literal ∈ literals := by
  rcases mem_foldl_keepNew member with nothing | found
  · cases nothing
  · exact found

theorem Kept.mem_foldl_iff {found : List Literal × List Identity} (kept : Kept found)
    (literals : List Literal) (one : Identity) :
    one ∈ (literals.foldl Literal.keepNew found).1.map identity ↔
      one ∈ found.1.map identity ∨ one ∈ literals.map identity := by
  induction literals generalizing found with
  | nil => simp
  | cons literal rest ih =>
      rw [List.foldl_cons, ih (kept.keepNew literal), List.map_cons, List.mem_cons]
      have step : one ∈ (Literal.keepNew found literal).1.map identity ↔
          one ∈ found.1.map identity ∨ one = literal.identity := by
        unfold Literal.keepNew
        by_cases old : literal.identity ∈ found.2
        · rw [if_pos (by simpa using old)]
          constructor
          · exact Or.inl
          · rintro (known | rfl)
            · exact known
            · exact (kept.seen _).mp old
        · rw [if_neg (by simpa using old), List.map_append, List.mem_append, List.map_singleton,
            List.mem_singleton]
      rw [step, or_assoc]

/-- No literal is lost that counts as none of those kept. -/
theorem mem_identity_distinct_iff (literals : List Literal) (one : Identity) :
    one ∈ (distinct literals).map identity ↔ one ∈ literals.map identity := by
  rw [distinct_eq_foldl, Kept.empty.mem_foldl_iff]
  simp

end Literal

namespace Schema

/-- The schema of a property under its name. -/
def readField (property : Tree × Tree) : Except Refusal (String × Schema) :=
  (property.1.withText .illegible
    ((read property.2).mapError (.under (.property property.1.display)))).map
      (property.1.display, ·)

theorem readFields_eq_mapM (properties : List (Tree × Tree)) :
    readFields properties = properties.mapM readField := by
  induction properties with
  | nil => rw [readFields]; rfl
  | cons property rest ih =>
      rw [readFields, ih, List.mapM_cons, readField]
      cases property.1.withText Refusal.illegible
        ((read property.2).mapError (Refusal.under (.property property.1.display))) <;> rfl

theorem readField_eq_ok_iff (property : Tree × Tree) (field : String × Schema) :
    readField property = .ok field ↔ property.1.isLegible = true ∧
      field.1 = property.1.display ∧ read property.2 = .ok field.2 := by
  rw [readField, Outcome.map_eq_ok_iff]
  simp only [Tree.withText_eq_ok_iff, Outcome.mapError_eq_ok_iff]
  constructor
  · rintro ⟨schema, ⟨legible, readOk⟩, rfl⟩
    exact ⟨legible, rfl, readOk⟩
  · rintro ⟨legible, same, readOk⟩
    exact ⟨field.2, ⟨legible, readOk⟩, by rw [← same]⟩

/-- A field of an object comes from a property, under the text of its key. -/
structure PropertyOf (motive : Tree -> Schema -> Prop) (property : Tree × Tree)
    (field : String × Schema) : Prop where
  name : field.1 = property.1.display
  readOk : read property.2 = .ok field.2
  holds : motive property.2 field.2

theorem readPrimitive_eq_ok_iff (kind : PrimitiveKind) (entries : List (Tree × Tree))
    (schema : Schema) :
    readPrimitive kind entries = .ok schema ↔ Tree.keysAreLegible entries = true ∧
      Exists fun format => (Tree.field "format" entries).optionalText = .ok format ∧
        schema = .primitive kind format (readConstraints entries) := by
  rw [readPrimitive]
  cases Tree.keysAreLegible entries with
  | false => simp
  | true => cases (Tree.field "format" entries).optionalText <;> simp [eq_comm]

/-- A primitive is refused for a key or for its format, which no rule speaks of. -/
theorem readPrimitive_ne_fault (kind : PrimitiveKind) (entries : List (Tree × Tree))
    (fault : Fault) : readPrimitive kind entries ≠ .error (.fault fault) := by
  intro refused
  rw [readPrimitive] at refused
  split at refused
  · split at refused <;> cases refused
  · cases refused

/-- What a property of schemas that were read has to satisfy, one case for each form. -/
structure ReadingCases (motive : Tree -> Schema -> Prop) : Prop where
  reference : forall entries label target name, form entries = .reference target ->
    Reference.parse target = .ok name -> motive (.map entries label) (.ref name)
  enumeration : forall entries label values valuesLabel literals,
    form entries = .enumeration (.list values valuesLabel) -> readLiterals values = .ok literals ->
    motive (.map entries label) (.enum (Literal.distinct literals))
  object : forall entries label properties required fields, form entries = .object ->
    objectParts entries = .ok (properties, required) ->
    List.Forall₂ (PropertyOf motive) properties fields ->
    motive (.map entries label) (.object (Keyed.ofList fields) required)
  array : forall entries label item element, form entries = .array ->
    Tree.lookup? "items" entries = some item -> read item = .ok element -> motive item element ->
    motive (.map entries label) (.array element)
  primitive : forall entries label kind format, form entries = .primitive kind ->
    (Tree.field "format" entries).optionalText = .ok format ->
    motive (.map entries label) (.primitive kind format (readConstraints entries))

/-- What a property of nodes has to satisfy to hold of all: it passes from the items and
the properties of a node, as reading finds them, to the node. -/
structure NodeCases (motive : Tree -> Prop) : Prop where
  leaf : forall node, (forall entries label, node ≠ .map entries label) -> motive node
  map : forall entries label,
    (forall item, Tree.lookup? "items" entries = some item -> motive item) ->
    (forall properties required, objectParts entries = .ok (properties, required) ->
      forall property, property ∈ properties -> motive property.2) ->
    motive (.map entries label)

theorem sizeOf_item {entries : List (Tree × Tree)} {item : Tree}
    (found : Tree.lookup? "items" entries = some item) (label : Option Label) :
    sizeOf item < sizeOf (Tree.map entries label) := by
  have := Tree.sizeOf_lookup? found
  simp
  omega

theorem sizeOf_property {entries properties : List (Tree × Tree)} {required : List String}
    (parts : objectParts entries = .ok (properties, required)) {property : Tree × Tree}
    (member : property ∈ properties) (label : Option Label) :
    sizeOf property.2 < sizeOf (Tree.map entries label) := by
  have := sizeOf_objectParts parts
  have := List.sizeOf_lt_of_mem member
  rcases property with ⟨key, value⟩
  simp at this ⊢
  omega

/-- Induction along the nodes that reading goes through. -/
theorem NodeCases.holds {motive : Tree -> Prop} (cases : NodeCases motive) (node : Tree) :
    motive node := by
  match node with
  | .map entries label =>
      refine cases.map entries label ?_ ?_
      · intro item found
        have smaller := sizeOf_item found label
        exact cases.holds item
      · intro properties required parts property member
        have smaller := sizeOf_property parts member label
        exact cases.holds property.2
  | .null | .bool _ | .int _ | .float _ | .str _ | .bytes _ | .date _ | .dateTime _
  | .list _ _ | .tuple _ _ | .set _ => exact cases.leaf _ (by intro entries label same; cases same)
termination_by sizeOf node
decreasing_by all_goals exact smaller

theorem not_read_of_leaf {node : Tree} (leaf : forall entries label, node ≠ .map entries label) :
    read node = refuse (.malformed .schemaNotMapping) := by
  unfold read
  split
  · next entries label => exact absurd rfl (leaf entries label)
  · rfl

namespace ReadingCases

variable {motive : Tree -> Schema -> Prop}

/-- Induction along a node that was read. -/
theorem nodeCases (cases : ReadingCases motive) :
    NodeCases fun node => forall schema, read node = .ok schema -> motive node schema where
  leaf node leaf schema readOk := by
    rw [not_read_of_leaf leaf] at readOk
    cases readOk
  map entries label ofItem ofProperty schema readOk := by
    rw [read] at readOk
    split at readOk
    · next target recognised =>
        rcases Outcome.map_eq_ok_iff.mp readOk with ⟨name, parsed, rfl⟩
        exact cases.reference entries label target name recognised
          (Outcome.mapError_eq_ok_iff.mp parsed)
    · cases readOk
    · next values recognised =>
        have enumRead := Outcome.mapError_eq_ok_iff.mp readOk
        cases values with
        | list values valuesLabel =>
            rcases Outcome.map_eq_ok_iff.mp enumRead with ⟨literals, literalsRead, rfl⟩
            exact cases.enumeration entries label values valuesLabel literals recognised
              literalsRead
        | _ => cases enumRead
    · next recognised =>
        split at readOk
        · cases readOk
        · next properties required parts =>
            rcases Outcome.map_eq_ok_iff.mp readOk with ⟨fields, fieldsRead, rfl⟩
            rw [readFields_eq_mapM, Outcome.mapM_eq_ok_iff] at fieldsRead
            refine cases.object entries label properties required fields recognised parts ?_
            refine Outcome.forall₂_imp_of_mem fieldsRead ?_
            intro property member field fieldRead
            rcases (readField_eq_ok_iff property field).mp fieldRead with ⟨_, name, schemaRead⟩
            refine ⟨name, schemaRead, ?_⟩
            exact ofProperty properties required parts property member _ schemaRead
    · next recognised =>
        split at readOk
        · cases readOk
        · next item found =>
            rcases Outcome.map_eq_ok_iff.mp readOk with ⟨element, elementRead, rfl⟩
            have elementRead := Outcome.mapError_eq_ok_iff.mp elementRead
            exact cases.array entries label item element recognised found elementRead
              (ofItem item found element elementRead)
    · next kind recognised =>
        rcases (readPrimitive_eq_ok_iff kind entries schema).mp readOk with
          ⟨_, format, formatRead, rfl⟩
        exact cases.primitive entries label kind format recognised formatRead
    · cases readOk
    · cases readOk

theorem of_read (cases : ReadingCases motive) {node : Tree} {schema : Schema}
    (readOk : read node = .ok schema) : motive node schema :=
  cases.nodeCases.holds node schema readOk

end ReadingCases

/-! ## Enumerations -/

/-- No enumeration in a schema holds two literals that count as one. -/
inductive DistinctEnums : Schema -> Prop
  | object {fields : List (String × Schema)} {required : List String}
      (parts : forall field, field ∈ fields -> DistinctEnums field.2) :
      DistinctEnums (.object fields required)
  | array {element : Schema} (part : DistinctEnums element) : DistinctEnums (.array element)
  | primitive {kind : PrimitiveKind} {format : Option String} {constraints : List (String × Tree)} :
      DistinctEnums (.primitive kind format constraints)
  | enum {values : List Literal} (distinct : (values.map Literal.identity).Nodup) :
      DistinctEnums (.enum values)
  | ref {name : String} : DistinctEnums (.ref name)

theorem distinctEnums_cases : ReadingCases fun _ schema => schema.DistinctEnums where
  reference _ _ _ _ _ _ := .ref
  enumeration _ _ _ _ literals _ _ := .enum (Literal.nodup_distinct literals)
  object entries label properties required fields _ _ fieldsOf := by
    refine .object ?_
    intro field member
    rcases Outcome.exists_left_of_forall₂ fieldsOf (Keyed.mem_of_mem_ofList member) with
      ⟨property, _, fieldOf⟩
    exact fieldOf.holds
  array _ _ _ _ _ _ _ distinct := .array distinct
  primitive _ _ _ _ _ _ := .primitive

/-- Reading leaves no literal twice in an enumeration. -/
theorem distinctEnums_of_read {node : Tree} {schema : Schema} (readOk : read node = .ok schema) :
    schema.DistinctEnums :=
  distinctEnums_cases.of_read readOk

/-! ## Objects -/

section Objects

theorem namesOf_eq_some_iff (items : List Tree) (names : List String) :
    namesOf items = some names ↔ items = names.map .str := by
  induction items generalizing names with
  | nil => cases names <;> simp [namesOf]
  | cons item rest ih =>
      cases item with
      | str name =>
          rw [namesOf, Option.map_eq_some_iff]
          constructor
          · rintro ⟨others, found, rfl⟩
            rw [(ih others).mp found, List.map_cons]
          · intro same
            cases names with
            | nil => cases same
            | cons first others =>
                rcases List.cons.inj same with ⟨sameName, sameRest⟩
                cases sameName
                exact ⟨others, (ih others).mpr sameRest, rfl⟩
      | _ => cases names <;> simp [namesOf]

/-- Whatever is empty has no properties, and anything else has to be a mapping. -/
theorem propertiesOf_eq_ok {entries properties : List (Tree × Tree)}
    (found : propertiesOf entries = .ok properties) :
    properties = (Tree.field "properties" entries).entries := by
  unfold propertiesOf at found
  split at found
  · next empty =>
      cases found
      cases declared : Tree.field "properties" entries with
      | map inner label =>
          rw [declared] at empty
          exact (List.isEmpty_iff.mp empty).symm
      | _ => rfl
  · split at found
    · next declared =>
        cases found
        rw [declared, Tree.entries]
    · cases found

/-- The names that are required stand in a list. -/
theorem exists_list_of_requiredOf {entries : List (Tree × Tree)} {required : List String}
    (found : requiredOf entries = .ok required) {name : String} (member : name ∈ required) :
    Exists fun items => Exists fun label =>
      Tree.field "required" entries = .list items label ∧ .str name ∈ items := by
  rw [requiredOf.eq_def] at found
  dsimp only at found
  split at found
  · cases found
    cases member
  · split at found
    · next items label declared =>
        split at found
        · next names isNames =>
            cases found
            refine ⟨items, label, declared, ?_⟩
            rw [(namesOf_eq_some_iff items required).mp isNames]
            exact List.mem_map_of_mem member
        · cases found
    · cases found

variable {entries properties : List (Tree × Tree)} {required : List String}

/-- No required name is missing just when each one is a key of the properties. -/
theorem find?_missing_eq_none_iff :
    (required.find? fun name => !Tree.hasKey name properties) = none ↔
      forall name, name ∈ required -> Tree.hasKey name properties = true := by
  simp only [List.find?_eq_none, Bool.not_eq_true', Bool.not_eq_false]

/-- The checks on an object pass just when each of them does. -/
theorem objectParts_eq_ok_iff :
    objectParts entries = .ok (properties, required) ↔
      propertiesOf entries = .ok properties ∧ requiredOf entries = .ok required ∧
      (forall name, name ∈ required -> Tree.hasKey name properties = true) ∧
      opensOrCloses (Tree.field "additionalProperties" entries) = true ∧
      (Tree.field "patternProperties" entries).isEmptyLike = true := by
  rw [objectParts, ← find?_missing_eq_none_iff]
  constructor
  · intro parts
    split at parts
    · cases parts
    · cases parts
    · next declared names =>
        split at parts
        · cases parts
        · next allFound =>
            split at parts
            · cases parts
            · next additional =>
                split at parts
                · cases parts
                · next patterns =>
                    cases parts
                    exact ⟨declared, names, allFound, by simpa using additional,
                      by simpa using patterns⟩
  · rintro ⟨declared, names, allFound, additional, patterns⟩
    simp only [declared, names, allFound, additional, patterns, Bool.not_true, Bool.false_eq_true,
      if_false]

/-- What the checks on an object find, where they pass. -/
theorem objectParts_eq_ok (parts : objectParts entries = .ok (properties, required)) :
    properties = (Tree.field "properties" entries).entries :=
  propertiesOf_eq_ok (objectParts_eq_ok_iff.mp parts).1

end Objects

/-! ## Parts -/

/-- A schema inside another one, at any depth. -/
inductive Part : Schema -> Schema -> Prop
  | whole {schema : Schema} : Part schema schema
  | field {fields : List (String × Schema)} {required : List String} {field : String × Schema}
      {part : Schema} (member : field ∈ fields) (inner : Part field.2 part) :
      Part (.object fields required) part
  | element {element part : Schema} (inner : Part element part) : Part (.array element) part

/-- A schema that was read from a node inside a tree. -/
def ReadInside (tree : Tree) (schema : Schema) : Prop :=
  Exists fun node => tree.Holds node ∧ read node = .ok schema

theorem ReadInside.of_holds {tree middle : Tree} {schema : Schema} (outer : tree.Holds middle)
    (inside : ReadInside middle schema) : ReadInside tree schema := by
  rcases inside with ⟨node, within, readOk⟩
  exact ⟨node, outer.trans within, readOk⟩

theorem holds_property {entries properties : List (Tree × Tree)} {required : List String}
    (parts : objectParts entries = .ok (properties, required)) {property : Tree × Tree}
    (member : property ∈ properties) (label : Option Label) :
    (Tree.map entries label).Holds property.2 := by
  rw [objectParts_eq_ok parts] at member
  have node : (Tree.map entries label).Holds (.map entries label) := .root
  exact node.fieldEntry member

theorem parts_cases : ReadingCases fun node schema =>
    read node = .ok schema -> forall part, schema.Part part -> ReadInside node part where
  reference _ _ _ _ _ _ readOk _ inner := by
    cases inner
    exact ⟨_, .root, readOk⟩
  enumeration _ _ _ _ _ _ _ readOk _ inner := by
    cases inner
    exact ⟨_, .root, readOk⟩
  object entries label properties required fields _ parts fieldsOf readOk part inner := by
    cases inner with
    | whole => exact ⟨_, .root, readOk⟩
    | field member inner =>
        rcases Outcome.exists_left_of_forall₂ fieldsOf (Keyed.mem_of_mem_ofList member) with
          ⟨property, propertyMember, fieldOf⟩
        exact (fieldOf.holds fieldOf.readOk part inner).of_holds
          (holds_property parts propertyMember label)
  array entries label item element _ found elementRead ofElement readOk part inner := by
    cases inner with
    | whole => exact ⟨_, .root, readOk⟩
    | element inner =>
        exact (ofElement elementRead part inner).of_holds (Tree.Holds.root.lookup found)
  primitive _ _ _ _ _ _ readOk _ inner := by
    cases inner
    exact ⟨_, .root, readOk⟩

/-- Every part of a schema was read from a node inside the tree that the schema was read
from. -/
theorem ReadInside.part {tree : Tree} {schema part : Schema} (inside : ReadInside tree schema)
    (inner : schema.Part part) : ReadInside tree part := by
  rcases inside with ⟨node, within, readOk⟩
  exact (parts_cases.of_read readOk readOk part inner).of_holds within

end Schema
end RouteIR
