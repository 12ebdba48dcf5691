import RouteIR.Proofs.Document.Declaration
import RouteIR.Proofs.Document.Schemas

namespace RouteIR
namespace Document

/-!
# Tables with the texts of keys

Components, fields and responses are read into tables, each entry under the text of its
key.  Keys of different values may read alike: the number 200 and the text 200 are two keys
of a mapping and one key of a table.  A table keeps every entry exactly when the keys of its
mapping read differently, and otherwise it has of the keys that read alike the last one only.
-/

/-- Each entry of a mapping has an entry of its own in the table, under the text of its key
and with what its value is read as. -/
structure Keeps {α : Type} (reads : Tree -> α -> Prop) (entries : List (Tree × Tree))
    (table : List (String × α)) : Prop where
  count : table.length = entries.length
  each : forall entry, entry ∈ entries -> Exists fun value =>
    (entry.1.display, value) ∈ table ∧ reads entry.2 value

/-- A table that has each text of a key of a mapping once, with what the last value under a
key of this text is read as. -/
structure Tabulates {α : Type} (reads : Tree -> α -> Prop) (entries : List (Tree × Tree))
    (table : List (String × α)) : Prop where
  distinct : (Keyed.keys table).Nodup
  keys : forall text, text ∈ Keyed.keys table ↔ text ∈ entries.map (·.1.display)
  latest : forall row, row ∈ table -> Exists fun before => Exists fun entry =>
    Exists fun after => entries = before ++ entry :: after ∧ entry.1.display = row.1 ∧
      row.1 ∉ after.map (·.1.display) ∧ reads entry.2 row.2
  keeps_iff : Keeps reads entries table ↔ (entries.map (·.1.display)).Nodup

section Pairs

variable {α : Type} {reads : Tree -> α -> Prop} {entries : List (Tree × Tree)}
  {pairs : List (String × α)}

/-- A pass that reads each entry under the text of its key makes the pairs of a table. -/
def ReadPairs (reads : Tree -> α -> Prop) (entries : List (Tree × Tree))
    (pairs : List (String × α)) : Prop :=
  List.Forall₂ (fun entry pair => pair.1 = entry.1.display ∧ reads entry.2 pair.2) entries pairs

theorem ReadPairs.keys (read : ReadPairs reads entries pairs) :
    entries.map (·.1.display) = Keyed.keys pairs :=
  Outcome.map_eq_map_of_forall₂ read fun _ _ one => one.1.symm

theorem ReadPairs.keeps_iff (read : ReadPairs reads entries pairs) :
    Keeps reads entries (Keyed.ofList pairs) ↔ (entries.map (·.1.display)).Nodup := by
  rw [read.keys, ← Keyed.length_ofList_iff]
  have sameLength : entries.length = pairs.length := read.length_eq
  constructor
  · intro keeps
    rw [keeps.count, sameLength]
  · intro whole
    refine ⟨whole.trans sameLength.symm, ?_⟩
    intro entry member
    rcases Outcome.exists_right_of_forall₂ read member with ⟨pair, pairMember, name, readsValue⟩
    rw [Keyed.ofList_of_nodup ((Keyed.length_ofList_iff pairs).mp whole)]
    exact ⟨pair.2, by rwa [← name], readsValue⟩

theorem ReadPairs.tabulates (read : ReadPairs reads entries pairs) :
    Tabulates reads entries (Keyed.ofList pairs) := by
  refine ⟨Keyed.nodup_keys_ofList pairs, ?_, ?_, read.keeps_iff⟩
  · intro text
    rw [Keyed.mem_keys_ofList_iff, read.keys]
  · intro row member
    rcases (Keyed.mem_ofList_iff pairs row).mp member with ⟨before, after, rfl, fresh⟩
    rcases Outcome.split_of_forall₂ read with ⟨first, entry, last, rfl, _, ⟨name, readsRow⟩, others⟩
    have names : last.map (·.1.display) = Keyed.keys after := ReadPairs.keys others
    refine ⟨first, entry, last, rfl, name.symm, ?_, readsRow⟩
    rwa [names]

end Pairs

/-! ## The tables of a document -/

/-- A node is read as a schema. -/
def Reads (node : Tree) (schema : Schema) : Prop := Schema.read node = .ok schema

theorem fields_cases : Schema.ReadingCases fun node schema => forall fields required,
    schema = .object fields required ->
      Tabulates Reads (Tree.field "properties" node.entries).entries fields where
  reference _ _ _ _ _ _ _ _ same := by cases same
  enumeration _ _ _ _ _ _ _ _ _ same := by cases same
  object entries label properties required fields _ parts fieldsOf _ _ same := by
    cases same
    rw [Tree.entries, ← Schema.objectParts_eq_ok parts]
    have read : ReadPairs Reads properties fields :=
      fieldsOf.imp fun _ _ fieldOf => ⟨fieldOf.name, fieldOf.readOk⟩
    exact read.tabulates
  array _ _ _ _ _ _ _ _ _ _ same := by cases same
  primitive _ _ _ _ _ _ _ _ same := by cases same

/-- The entries under the component schemas of a document tree. -/
def schemaEntries (tree : Tree) : List (Tree × Tree) :=
  (Tree.field "schemas" (Tree.field "components" tree.entries).entries).entries

/-- Every table of a document against the mapping that it was read from: its components, the
fields of every object schema in it at any depth, and the responses of every operation. -/
structure TablesOf (tree : Tree) (document : Document) : Prop where
  components : Tabulates Reads (schemaEntries tree) document.components
  fields : forall schema, schema ∈ document.schemas -> forall fields required,
    schema.Part (.object fields required) -> Exists fun node => tree.Holds node ∧
      Reads node (.object fields required) ∧
      Tabulates Reads (Tree.field "properties" node.entries).entries fields
  responses : forall path, path ∈ document.paths -> forall operation, operation ∈ path.2 ->
    Exists fun declaration => declaration ∈ declarations tree ∧ declaration.path = path.1 ∧
      declaration.method = operation.method ∧
      Tabulates BodyReads (Tree.field "responses" declaration.entries).entries operation.responses

theorem tabulates_components {tree : Tree} {document : Document}
    (readOk : read tree = .ok document) :
    Tabulates Reads (schemaEntries tree) document.components := by
  rcases (read_eq_ok_iff tree document).mp readOk with ⟨entries, label, rfl, _, componentsRead, _⟩
  rcases exists_pairs_of_components componentsRead with ⟨pairs, table, pairsRead⟩
  have read : ReadPairs Reads (schemaEntries (.map entries label)) pairs :=
    pairsRead.imp fun entry component one =>
      ((readComponent_eq_ok_iff entry component).mp one).2
  rw [table]
  exact read.tabulates

theorem tabulates_responses {tree : Tree} {document : Document}
    (readOk : read tree = .ok document) {path : String × List Operation}
    (pathMember : path ∈ document.paths) {operation : Operation} (member : operation ∈ path.2) :
    Exists fun declaration => declaration ∈ declarations tree ∧ declaration.path = path.1 ∧
      declaration.method = operation.method ∧
      Tabulates BodyReads (Tree.field "responses" declaration.entries).entries
        operation.responses := by
  rcases exists_pairs_of_paths readOk with ⟨pairs, table, pairsRead⟩
  rw [table] at pathMember
  rcases Outcome.exists_left_of_forall₂ pairsRead (Keyed.mem_of_mem_ofList pathMember) with
    ⟨entry, entryMember, pathRead⟩
  rcases Outcome.exists_left_of_forall₂ (declares_of_readPath pathRead).2 member with
    ⟨declaration, declared, declares⟩
  rcases declares.operation.responses with ⟨responsePairs, responseTable, responsesRead⟩
  have read : ReadPairs BodyReads (Tree.field "responses" declaration.entries).entries
      responsePairs := responsesRead
  refine ⟨declaration, ?_, declares.path, declares.operation.method.symm, ?_⟩
  · exact List.mem_flatMap.mpr ⟨entry, entryMember, declared⟩
  · rw [responseTable]
    exact read.tabulates

/-- In every document that is read, no entry of a mapping is lost from its table exactly
when the keys of the mapping read differently. -/
theorem tablesOf_of_read {tree : Tree} {document : Document} (readOk : read tree = .ok document) :
    TablesOf tree document := by
  refine ⟨tabulates_components readOk, ?_, ?_⟩
  · intro schema member fields required part
    rcases (readInside_of_schema readOk member).part part with ⟨node, within, nodeRead⟩
    exact ⟨node, within, nodeRead, fields_cases.of_read nodeRead fields required rfl⟩
  · intro path pathMember operation member
    exact tabulates_responses readOk pathMember member

/-- A document with a number and a text for one status. -/
def statusTree : Tree :=
  let response (type : String) : Tree := .object [("schema", .object [("type", .str type)])]
  .object [("paths", .object [("/a", .object [("get", .object [("responses",
    .map [(.int 200, response "string"), (.str "200", response "integer")] none)])])])]

/-- The document is accepted. -/
theorem tablesOf_statusTree :
    Exists fun document => read statusTree = .ok document ∧ TablesOf statusTree document := by
  have accepted : Exists fun document => read statusTree = .ok document :=
    Outcome.exists_of_isOk (by decide +kernel)
  rcases accepted with ⟨document, readOk⟩
  exact ⟨document, readOk, tablesOf_of_read readOk⟩

/-- Two responses are declared under keys of different values, and one is left. -/
theorem response_lost_in_statusTree :
    statusTree.isWellKeyed = true ∧
      (declarations statusTree).map
        (fun one => (Tree.field "responses" one.entries).entries.length) = [2] ∧
      Exists fun document => read statusTree = .ok document ∧
        document.paths.flatMap (fun path => path.2.map (·.responses.length)) = [1] := by
  refine ⟨by decide +kernel, by decide +kernel, ?_⟩
  have accepted : Exists fun document => read statusTree = .ok document :=
    Outcome.exists_of_isOk (by decide +kernel)
  rcases accepted with ⟨document, readOk⟩
  exact ⟨document, readOk, Outcome.part_eq_of_computed readOk
    (fun document => document.paths.flatMap fun path => path.2.map (·.responses.length))
    (by decide +kernel)⟩

end Document
end RouteIR
