import RouteIR.Proofs.Schema.KeyOrder

namespace RouteIR

/-!
# Writing schemas

A schema is written as the node that declares it and nothing more.  Reading undoes writing:
the form of the node that is written is that of the schema, and every check on it passes.
Whatever a node was read as can be written, so that reading a node once and reading what is
written of the result give the same schema.
-/

namespace Tree

/-- The mapping that is built from pairs: a key has the last value that is given to it. -/
def ofPairs (pairs : List (String × Tree)) : Tree := object (Keyed.ofList pairs)

/-- Pairs as the entries of a mapping. -/
def textEntries (pairs : List (String × Tree)) : List (Tree × Tree) :=
  pairs.map fun pair => (str pair.1, pair.2)

theorem ofPairs_eq {pairs : List (String × Tree)} (distinct : (Keyed.keys pairs).Nodup) :
    ofPairs pairs = .map (textEntries pairs) none := by
  rw [ofPairs, Keyed.ofList_of_nodup distinct, object, textEntries]

/-- Under a key of an object stands what the key has among the pairs. -/
theorem lookup?_textEntries (key : String) (pairs : List (String × Tree)) :
    lookup? key (textEntries pairs) = pairs.lookup key := by
  induction pairs with
  | nil => rfl
  | cons pair rest ih =>
      rw [textEntries, List.map_cons, ← textEntries, lookup?, List.lookup_cons, ih, isText]
      by_cases same : pair.1 = key
      · subst same
        rw [if_pos (decide_eq_true rfl), beq_self_eq_true]
      · rw [if_neg (by simpa using same), beq_false_of_ne (Ne.symm same)]

theorem keysAreLegible_textEntries (pairs : List (String × Tree)) :
    keysAreLegible (textEntries pairs) = true := by
  induction pairs with
  | nil => rfl
  | cons pair rest ih => exact ih

theorem hasKey_textEntries_iff (key : String) (pairs : List (String × Tree)) :
    hasKey key (textEntries pairs) = true ↔ key ∈ Keyed.keys pairs := by
  rw [hasKey, lookup?_textEntries, Option.isSome_iff_exists, Keyed.exists_lookup_iff]

theorem lookup_eq_none {key : String} {pairs : List (String × Tree)}
    (absent : key ∉ Keyed.keys pairs) : pairs.lookup key = none := by
  rw [← Option.not_isSome_iff_eq_none, Option.isSome_iff_exists, Keyed.exists_lookup_iff]
  exact absent

end Tree

namespace Reference

theorem unescape_ne_nil {segment : List Char} (nonempty : segment ≠ []) :
    unescape segment ≠ [] := by
  cases segment with
  | nil => exact absurd rfl nonempty
  | cons char rest =>
      rw [unescape.eq_def]
      split <;> simp_all

theorem escape_ne_nil {name : List Char} (nonempty : name ≠ []) : escape name ≠ [] := by
  cases name with
  | nil => exact absurd rfl nonempty
  | cons char rest =>
      rw [escape]
      split
      · simp
      · split <;> simp

theorem slash_not_mem_escape (name : List Char) : '/' ∉ escape name := by
  induction name with
  | nil => simp [escape]
  | cons char rest ih =>
      rw [escape]
      split
      · simp [ih]
      · next notTilde =>
          split
          · simp [ih]
          · next notSlash => simp [ih, Ne.symm notSlash]

/-- The reference to a component. -/
def target (name : String) : Tree := .str (String.ofList (pointer ++ escape name.toList))

theorem parse_target {name : String} (nonempty : name ≠ "") : parse (target name) = .ok name := by
  have chars : (String.ofList (pointer ++ escape name.toList)).toList =
      pointer ++ escape name.toList := String.toList_ofList
  have inside : isLocal (target name) = true := by
    rw [target, isLocal, chars]
    rfl
  have named : name.toList ≠ [] := by
    intro isEmpty
    exact nonempty (String.toList_inj.mp (by rw [isEmpty]; rfl))
  have found : ((pointer ++ escape name.toList).drop pointer.length) = escape name.toList :=
    List.drop_left
  rw [target] at inside
  rw [target, parse, inside]
  simp [found, escape_ne_nil named, slash_not_mem_escape, unescape_escape]

theorem ne_empty_of_parse {reference : Tree} {name : String}
    (parsed : parse reference = .ok name) : name ≠ "" := by
  cases reference with
  | str text =>
      rw [parse] at parsed
      split at parsed
      · cases parsed
      · dsimp only at parsed
        split at parsed
        · cases parsed
        · next inside =>
            cases parsed
            intro isEmpty
            have chars := congrArg String.toList isEmpty
            rw [String.toList_ofList] at chars
            refine unescape_ne_nil ?_ chars
            intro nothing
            simp [nothing] at inside
  | _ => cases parsed

end Reference

namespace Literal

theorem ofTree?_toTree (literal : Literal) : ofTree? literal.toTree = some literal := by
  cases literal <;> rfl

/-- Literals that all differ are kept as they stand. -/
theorem distinct_of_nodup {literals : List Literal} (unique : (literals.map identity).Nodup) :
    distinct literals = literals := by
  have kept : forall before, Kept before -> (before.1.map identity ++ literals.map identity).Nodup ->
      (literals.foldl keepNew before).1 = before.1 ++ literals := by
    clear unique
    induction literals with
    | nil => simp
    | cons literal rest ih =>
        intro before found unique
        have new : literal.identity ∉ before.2 := by
          rw [found.seen]
          intro old
          exact List.disjoint_of_nodup_append unique old List.mem_cons_self
        have step : keepNew before literal =
            (before.1 ++ [literal], literal.identity :: before.2) := by
          rw [keepNew, if_neg (by simpa using new)]
        rw [List.foldl_cons, step, ih _ (step ▸ found.keepNew literal)]
        · simp
        · simpa using unique
  rw [distinct_eq_foldl, kept ([], []) .empty (by simpa using unique)]
  rfl

end Literal

namespace Schema

/-! ## Writing -/

/-- The entries that declare an object. -/
def objectPairs (properties : List (String × Tree)) (required : List String) :
    List (String × Tree) :=
  [("type", .str "object"), ("properties", .ofPairs properties),
    ("required", .list (required.map Tree.str) none)]

/-- The entries that declare a primitive: a format only where there is one. -/
def primitivePairs (kind : PrimitiveKind) (format : Option String)
    (constraints : List (String × Tree)) : List (String × Tree) :=
  ("type", .str kind.text) :: (format.toList.map fun text => ("format", .str text)) ++ constraints

mutual

/-- The node that declares a schema. -/
def written : Schema -> Tree
  | .ref name => .ofPairs [("$ref", Reference.target name)]
  | .enum values => .ofPairs [("enum", .list (values.map Literal.toTree) none)]
  | .object fields required => .ofPairs (objectPairs (writtenFields fields) required)
  | .array element => .ofPairs [("type", .str "array"), ("items", element.written)]
  | .primitive kind format constraints => .ofPairs (primitivePairs kind format constraints)

/-- The properties that declare the fields of an object. -/
def writtenFields : List (String × Schema) -> List (String × Tree)
  | [] => []
  | (name, schema) :: rest => (name, schema.written) :: writtenFields rest

end

theorem writtenFields_eq (fields : List (String × Schema)) :
    writtenFields fields = fields.map fun field => (field.1, field.2.written) := by
  induction fields with
  | nil => rw [writtenFields]; rfl
  | cons field rest ih => rw [writtenFields, ih]; rfl

theorem keys_writtenFields (fields : List (String × Schema)) :
    Keyed.keys (writtenFields fields) = Keyed.keys fields := by
  rw [writtenFields_eq, Keyed.keys, Keyed.keys, List.map_map]
  rfl

/-- A schema whose parts can be told apart in writing. -/
inductive Writable : Schema -> Prop
  | ref {name : String} (named : name ≠ "") : Writable (.ref name)
  | enum {values : List Literal} (distinct : (values.map Literal.identity).Nodup) :
      Writable (.enum values)
  | object {fields : List (String × Schema)} {required : List String}
      (distinct : (Keyed.keys fields).Nodup)
      (fieldsWritable : forall field, field ∈ fields -> Writable field.2)
      (declared : forall name, name ∈ required -> name ∈ Keyed.keys fields) :
      Writable (.object fields required)
  | array {element : Schema} (elementWritable : Writable element) : Writable (.array element)
  | primitive {kind : PrimitiveKind} {format : Option String}
      {constraints : List (String × Tree)} (distinct : (Keyed.keys constraints).Nodup)
      (free : forall key, key ∈ Keyed.keys constraints ->
        key ∉ structuralKeys ∧ key ∉ compositionKeywords) :
      Writable (.primitive kind format constraints)

/-! ## Reading what is written -/

theorem readLiterals_written (values : List Literal) :
    readLiterals (values.map Literal.toTree) = .ok values := by
  induction values with
  | nil => rfl
  | cons literal rest ih =>
      rw [List.map_cons, readLiterals, Literal.ofTree?_toTree]
      simp only [ih]
      rfl

theorem read_written_ref {name : String} (named : name ≠ "") :
    read (written (.ref name)) = .ok (.ref name) := by
  rw [written, Tree.ofPairs_eq (by simp), read]
  have isReference : form (Tree.textEntries [("$ref", Reference.target name)]) =
      .reference (Reference.target name) := rfl
  simp only [isReference, Reference.parse_target named]
  rfl

theorem read_written_enum {values : List Literal}
    (distinct : (values.map Literal.identity).Nodup) :
    read (written (.enum values)) = .ok (.enum values) := by
  rw [written, Tree.ofPairs_eq (by simp), read]
  have isEnumeration :
      form (Tree.textEntries [("enum", .list (values.map Literal.toTree) none)]) =
        .enumeration (.list (values.map Literal.toTree) none) := rfl
  simp only [isEnumeration, readEnum, readLiterals_written]
  rw [Except.map, Literal.distinct_of_nodup distinct]
  rfl

theorem read_written_array {element : Schema} (readOk : read element.written = .ok element) :
    read (written (.array element)) = .ok (.array element) := by
  have found : Tree.lookup? "items"
      (Tree.textEntries [("type", .str "array"), ("items", element.written)]) =
        some element.written := rfl
  rw [written, Tree.ofPairs_eq (by simp), read_array rfl, found]
  simp only [readOk]
  rfl

section Object

variable {fields : List (String × Schema)} {properties : List (String × Tree)}
  {required : List String}

/-- All checks on an object that is written pass. -/
theorem objectParts_objectPairs (distinct : (Keyed.keys properties).Nodup)
    (declared : forall name, name ∈ required -> name ∈ Keyed.keys properties) :
    objectParts (Tree.textEntries (objectPairs properties required)) =
      .ok (Tree.textEntries properties, required) := by
  have inner : propertiesOf (Tree.textEntries (objectPairs properties required)) =
      .ok (Tree.textEntries properties) := by
    have field : Tree.field "properties" (Tree.textEntries (objectPairs properties required)) =
        .ofPairs properties := rfl
    rw [propertiesOf, field, Tree.ofPairs_eq distinct]
    cases properties <;> rfl
  have names : requiredOf (Tree.textEntries (objectPairs properties required)) =
      .ok required := by
    have field : Tree.field "required" (Tree.textEntries (objectPairs properties required)) =
        .list (required.map Tree.str) none := rfl
    rw [requiredOf, field]
    cases required with
    | nil => rfl
    | cons name rest =>
        rw [if_neg (by simp [Tree.isEmptyLike])]
        simp only [(namesOf_eq_some_iff _ (name :: rest)).mpr rfl]
  refine objectParts_eq_ok_iff.mpr ⟨inner, names, ?_, rfl, rfl⟩
  exact fun name member => (Tree.hasKey_textEntries_iff name properties).mpr (declared name member)

theorem read_written_object (distinct : (Keyed.keys fields).Nodup)
    (declared : forall name, name ∈ required -> name ∈ Keyed.keys fields)
    (readOk : forall field, field ∈ fields -> read field.2.written = .ok field.2) :
    read (written (.object fields required)) = .ok (.object fields required) := by
  have table : (Tree.textEntries (writtenFields fields)).mapM readField = .ok fields := by
    rw [Outcome.mapM_eq_ok_iff, Tree.textEntries, writtenFields_eq, List.map_map,
      List.forall₂_map_left_iff, List.forall₂_same]
    intro field member
    exact (readField_eq_ok_iff _ _).mpr ⟨rfl, rfl, readOk field member⟩
  rw [← keys_writtenFields] at distinct declared
  rw [written, Tree.ofPairs_eq (by simp [objectPairs]), read_object rfl,
    objectParts_objectPairs distinct declared]
  rw [keys_writtenFields] at distinct
  simp only [Except.mapError, bind, Except.bind, table, Keyed.ofList_of_nodup distinct]
  rfl

end Object

section Primitive

variable {kind : PrimitiveKind} {format : Option String} {constraints : List (String × Tree)}

theorem nodup_primitivePairs (distinct : (Keyed.keys constraints).Nodup)
    (free : forall key, key ∈ Keyed.keys constraints -> key ∉ structuralKeys) :
    (Keyed.keys (primitivePairs kind format constraints)).Nodup := by
  have fresh (key : String) (structural : key ∈ structuralKeys) : key ∉ Keyed.keys constraints :=
    fun member => free key member structural
  have noType := fresh "type" (by decide)
  have noFormat := fresh "format" (by decide)
  cases format with
  | none => simpa [primitivePairs] using ⟨noType, distinct⟩
  | some text => simpa [primitivePairs] using ⟨noType, noFormat, distinct⟩

theorem lookup_primitivePairs {key : String} (notType : key ≠ "type") (notFormat : key ≠ "format") :
    (primitivePairs kind format constraints).lookup key = constraints.lookup key := by
  cases format <;>
    simp [primitivePairs, List.lookup_cons, beq_false_of_ne notType, beq_false_of_ne notFormat]

/-- What is written is recognised by its type, since no constraint tells another form. -/
theorem form_primitivePairs
    (free : forall key, key ∈ Keyed.keys constraints ->
      key ∉ structuralKeys ∧ key ∉ compositionKeywords) :
    form (Tree.textEntries (primitivePairs kind format constraints)) = .primitive kind := by
  have absent (key : String) (notType : key ≠ "type") (notFormat : key ≠ "format")
      (reserved : key ∈ structuralKeys ∨ key ∈ compositionKeywords) :
      Tree.lookup? key (Tree.textEntries (primitivePairs kind format constraints)) = none := by
    rw [Tree.lookup?_textEntries, lookup_primitivePairs notType notFormat]
    apply Tree.lookup_eq_none
    intro member
    rcases reserved with structural | keyword
    · exact (free key member).1 structural
    · exact (free key member).2 keyword
  have noKeyword : (compositionKeywords.find?
      (Tree.hasKey · (Tree.textEntries (primitivePairs kind format constraints)))) = none := by
    rw [List.find?_eq_none]
    intro keyword member
    have apart : forall keyword, keyword ∈ compositionKeywords ->
        keyword ≠ "type" ∧ keyword ≠ "format" := by decide
    rcases apart keyword member with ⟨notType, notFormat⟩
    rw [Tree.hasKey, absent keyword notType notFormat (Or.inr member)]
    decide
  have type : Tree.field "type" (Tree.textEntries (primitivePairs kind format constraints)) =
      .str kind.text := rfl
  rw [form, absent "$ref" (by decide) (by decide) (by decide), noKeyword,
    absent "enum" (by decide) (by decide) (by decide), type]
  cases kind <;> rfl

theorem readConstraints_primitivePairs
    (free : forall key, key ∈ Keyed.keys constraints -> key ∉ structuralKeys) :
    readConstraints (Tree.textEntries (primitivePairs kind format constraints)) =
      constraints := by
  have kept : readConstraints (Tree.textEntries constraints) = constraints := by
    have allKept : (Tree.textEntries constraints).filter (isConstraintKey ·.1) =
        Tree.textEntries constraints := by
      rw [List.filter_eq_self]
      intro entry member
      rcases List.mem_map.mp member with ⟨pair, pairMember, rfl⟩
      have notStructural := free pair.1 (List.mem_map_of_mem pairMember)
      simpa [isConstraintKey] using notStructural
    rw [readConstraints, allKept, Tree.textEntries, List.map_map]
    exact List.map_id _
  cases format <;> exact kept

theorem read_written_primitive (distinct : (Keyed.keys constraints).Nodup)
    (free : forall key, key ∈ Keyed.keys constraints ->
      key ∉ structuralKeys ∧ key ∉ compositionKeywords) :
    read (written (.primitive kind format constraints)) =
      .ok (.primitive kind format constraints) := by
  have notStructural := fun key member => (free key member).1
  have formatOf : (Tree.field "format"
      (Tree.textEntries (primitivePairs kind format constraints))).optionalText = .ok format := by
    rw [Tree.field, Tree.lookup?_textEntries]
    cases format with
    | none =>
        have absent : constraints.lookup "format" = none :=
          Tree.lookup_eq_none fun member => notStructural _ member (by decide)
        simp [primitivePairs, List.lookup_cons, absent, Tree.optionalText]
    | some text => rfl
  rw [written, Tree.ofPairs_eq (nodup_primitivePairs distinct notStructural), read]
  simp only [form_primitivePairs free, readPrimitive, Tree.keysAreLegible_textEntries, if_true,
    formatOf, readConstraints_primitivePairs notStructural]

end Primitive

theorem read_written_of_writable {schema : Schema} (writable : Writable schema) :
    read schema.written = .ok schema := by
  induction writable with
  | ref named => exact read_written_ref named
  | enum distinct => exact read_written_enum distinct
  | object distinct _ declared ih => exact read_written_object distinct declared ih
  | array _ ih => exact read_written_array ih
  | primitive distinct free => exact read_written_primitive distinct free

/-! ## Writing what is read -/

section Read

variable {entries : List (Tree × Tree)}

/-- Under text keys the constraints of a primitive have distinct keys. -/
theorem nodup_keys_readConstraints (label : Option Label)
    (textKeyed : (Tree.map entries label).isTextKeyed = true)
    (distinct : (entries.map Tree.keyIdentity).Nodup) :
    (Keyed.keys (readConstraints entries)).Nodup := by
  have texts : (entries.map (·.1.display)).Nodup :=
    Tree.nodup_texts distinct fun entry member =>
      (Tree.isTextKeyed_of_entry textKeyed member).1
  rw [readConstraints, Keyed.keys, List.map_map]
  exact texts.sublist ((List.filter_sublist).map _)

/-- The constraints of a primitive tell no other form. -/
theorem free_readConstraints {kind : PrimitiveKind} (label : Option Label)
    (textKeyed : (Tree.map entries label).isTextKeyed = true)
    (isPrimitive : form entries = .primitive kind) :
    forall key, key ∈ Keyed.keys (readConstraints entries) ->
      key ∉ structuralKeys ∧ key ∉ compositionKeywords := by
  intro key member
  rw [readConstraints, Keyed.keys, List.map_map] at member
  rcases List.mem_map.mp member with ⟨entry, kept, rfl⟩
  rcases List.mem_filter.mp kept with ⟨entryMember, constraint⟩
  rcases (Tree.isTextKeyed_of_entry textKeyed entryMember).1 with ⟨name, isText⟩
  rcases entry with ⟨_, value⟩
  cases isText
  constructor
  · simpa [isConstraintKey, Tree.display] using constraint
  · intro keyword
    rw [form] at isPrimitive
    split at isPrimitive
    · cases isPrimitive
    · split at isPrimitive
      · cases isPrimitive
      · next noKeyword =>
          have absent := List.find?_eq_none.mp noKeyword _ keyword
          exact absent (Tree.hasKey_of_mem entryMember)

end Read

theorem writable_cases : ReadingCases fun node schema =>
    node.isTextKeyed = true -> node.isWellKeyed = true -> Writable schema where
  reference _ _ _ _ _ parsed _ _ := .ref (Reference.ne_empty_of_parse parsed)
  enumeration _ _ _ _ literals _ _ _ _ := .enum (Literal.nodup_distinct literals)
  object entries label properties required fields _ parts fieldsOf textKeyed wellKeyed := by
    have declaredOf := objectParts_eq_ok parts
    have sameNames : Keyed.keys fields = properties.map (·.1.display) := by
      symm
      exact Outcome.map_eq_map_of_forall₂ fieldsOf fun _ _ fieldOf => fieldOf.name.symm
    refine .object (Keyed.nodup_keys_ofList fields) ?_ ?_
    · intro field member
      rcases Outcome.exists_left_of_forall₂ fieldsOf (Keyed.mem_of_mem_ofList member) with
        ⟨property, propertyMember, fieldOf⟩
      rw [declaredOf] at propertyMember
      have texts := Tree.isTextKeyed_field textKeyed "properties"
      have distinct := Tree.isWellKeyed_field wellKeyed "properties"
      exact fieldOf.holds (Tree.isTextKeyed_of_entry texts propertyMember).2
        (Tree.isWellKeyed_of_entry distinct propertyMember)
    · intro name member
      have found := (objectParts_eq_ok_iff.mp parts).2.2.1 name member
      rcases Option.isSome_iff_exists.mp found with ⟨value, looked⟩
      rw [Keyed.mem_keys_ofList_iff, sameNames]
      exact List.mem_map_of_mem (Tree.mem_of_lookup? looked)
  array entries label item element _ found _ ofElement textKeyed wellKeyed := by
    have member := Tree.mem_of_lookup? found
    exact .array (ofElement (Tree.isTextKeyed_of_entry textKeyed member).2
      (Tree.isWellKeyed_of_entry wellKeyed member))
  primitive entries label kind format isPrimitive _ textKeyed wellKeyed :=
    .primitive
      (nodup_keys_readConstraints label textKeyed (Tree.nodup_keys_of_isWellKeyed wellKeyed))
      (free_readConstraints label textKeyed isPrimitive)

/-- What a node is read as can be written, where the keys of its mappings are distinct texts. -/
theorem writable_of_read {node : Tree} {schema : Schema} (textKeyed : node.isTextKeyed = true)
    (wellKeyed : node.isWellKeyed = true) (readOk : read node = .ok schema) : Writable schema :=
  writable_cases.of_read readOk textKeyed wellKeyed

/-- Reading undoes writing, and reading is settled after one round: what is written of the
result of reading a node is read as that result. -/
theorem read_written :
    (forall schema, Writable schema -> read schema.written = .ok schema) ∧
      forall node schema, node.isTextKeyed = true -> node.isWellKeyed = true ->
        read node = .ok schema -> read schema.written = .ok schema := by
  constructor
  · exact fun _ => read_written_of_writable
  · intro node schema textKeyed wellKeyed readOk
    exact read_written_of_writable (writable_of_read textKeyed wellKeyed readOk)

/-- A schema of every form, with a name that has to be escaped and literals that are equal but
for their types. -/
def catalogSchema : Schema :=
  .object [("tag", .ref "a/b~1"), ("sizes", .array (.enum [.int 1, .bool true, .str "1"])),
    ("day", .primitive .string (some "date") [("minLength", .int 1), ("x-note", .null)])] ["day"]

/-- A node whose type is not declared, with a literal twice and members that are not read. -/
def looseNode : Tree :=
  .object [("title", .str "Loose"), ("required", .null),
    ("properties", .object [("level", .object [("enum", .list [.int 1, .int 2, .int 1] none)])])]

theorem writable_catalogSchema : Writable catalogSchema := by
  refine .object (by decide) ?_ (by decide)
  simp only [List.forall_mem_cons]
  refine ⟨.ref (by decide), .array (.enum (by decide +kernel)), ?_, nofun⟩
  exact .primitive (by decide) (by decide)

/-- The catalog is read back, and so is what the loose node was read as. -/
theorem read_written_of_catalog :
    (Writable catalogSchema ∧ read catalogSchema.written = .ok catalogSchema) ∧
      looseNode.isTextKeyed = true ∧ looseNode.isWellKeyed = true ∧
        Exists fun schema => read looseNode = .ok schema ∧ read schema.written = .ok schema := by
  have textKeyed : looseNode.isTextKeyed = true := by decide
  have wellKeyed : looseNode.isWellKeyed = true := by decide +kernel
  have accepted : Exists fun schema => read looseNode = .ok schema :=
    Outcome.exists_of_isOk (by decide +kernel)
  rcases accepted with ⟨schema, readOk⟩
  exact ⟨⟨writable_catalogSchema, read_written.1 _ writable_catalogSchema⟩, textKeyed, wellKeyed,
    schema, readOk, read_written.2 looseNode schema textKeyed wellKeyed readOk⟩

end Schema
end RouteIR
