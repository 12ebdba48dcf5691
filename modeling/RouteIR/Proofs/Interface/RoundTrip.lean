import RouteIR.Interface.Json
import RouteIR.Proofs.Document.Declaration
import RouteIR.Proofs.Interface.ClosedWorld
import RouteIR.Proofs.Json.RoundTrip
import RouteIR.Proofs.TypeExpr.Representation
import RouteIR.Source.Content

namespace RouteIR

/-!
# An interface is read back from its text

The text of an interface is a JSON document that is read as the tree of the interface.  Its
objects have fixed members, but for the three tables of components, paths and responses, and
these have each key once because they were made as tables.  Its numbers come from the document.
-/

open Json (Faithful)

/-! ## Members -/

namespace Json
namespace Faithful

theorem ofFloat {value : Binary64} (canonical : value.Canonical) : Faithful (ofFloat value) := by
  cases value with
  | nan origin => exact .float rfl trivial
  | infinity negative => exact .float rfl trivial
  | finite negative significand shift => exact .float rfl canonical

theorem ofText (text : Option String) : Faithful (Json.ofText text) := by
  cases text with
  | none => exact .null
  | some text => exact .str text

theorem ofTexts (texts : List String) : Faithful (Json.ofTexts texts) := by
  refine .array ?_
  intro item member
  rcases List.mem_map.mp member with ⟨text, _, rfl⟩
  exact .str text

theorem arrayMap {α : Type} {write : α -> Json} {items : List α}
    (faithful : forall item, item ∈ items -> Faithful (write item)) :
    Faithful (.array (items.map write)) := by
  refine .array ?_
  intro value member
  rcases List.mem_map.mp member with ⟨item, itemMember, rfl⟩
  exact faithful item itemMember

/-- An object with the members that stand in its text. -/
theorem fixed {members : List (String × Json)} (distinct : (Keyed.keys members).Nodup)
    (faithful : members.Forall fun member => Faithful member.2) : Faithful (.object members) :=
  .object distinct (List.forall_iff_forall_mem.mp faithful)

/-- A table is an object with its keys. -/
theorem objectMap {α : Type} {write : α -> Json} {table : List (String × α)}
    (distinct : (Keyed.keys table).Nodup)
    (faithful : forall entry, entry ∈ table -> Faithful (write entry.2)) :
    Faithful (.object (table.map fun entry => (entry.1, write entry.2))) := by
  have sameKeys : Keyed.keys (table.map fun entry => (entry.1, write entry.2)) =
      Keyed.keys table := by
    rw [Keyed.keys, Keyed.keys, List.map_map]
    rfl
  refine .object (by rwa [sameKeys]) ?_
  intro member among
  rcases List.mem_map.mp among with ⟨entry, entryMember, rfl⟩
  exact faithful entry entryMember

end Faithful
end Json

theorem Refinement.Represented.faithful {refinement : Refinement}
    (represented : refinement.Represented) : Faithful refinement.toJson := by
  refine .fixed (by simp) ⟨.str _, ?_⟩
  cases refinement with
  | minLength value | maxLength value => exact .int value
  | minimum value | maximum value =>
      cases value with
      | int value => exact .int value
      | float value => exact .ofFloat (represented value rfl)
  | pattern text => exact .str text

theorem Literal.Represented.faithful {literal : Literal} (represented : literal.Represented) :
    Faithful literal.toJson := by
  cases literal with
  | bool value => exact .bool value
  | int value => exact .int value
  | float value => exact .ofFloat (represented value rfl)
  | str text => exact .str text

namespace TypeExpr

/-- A field of a record as JSON. -/
def fieldToJson (field : Field TypeExpr) : Json :=
  .object [("name", .str field.name), ("type", field.type.toJson),
    ("required", .bool field.required)]

theorem fieldsToJson_eq_map (fields : List (Field TypeExpr)) :
    fieldsToJson fields = fields.map fieldToJson := by
  induction fields with
  | nil => rfl
  | cons field rest ih =>
      rw [fieldsToJson, ih]
      rfl

theorem Represented.faithful {type : TypeExpr} (represented : type.Represented) :
    Faithful type.toJson := by
  induction represented with
  | primitive refinements =>
      refine .fixed (by simp) ⟨.str _, .str _, .ofText _, .arrayMap ?_⟩
      exact fun refinement member => (refinements refinement member).faithful
  | array part ih => exact .fixed (by simp) ⟨.str _, ih⟩
  | enum literals =>
      refine .fixed (by simp) ⟨.str _, .arrayMap ?_⟩
      exact fun literal member => (literals literal member).faithful
  | ref => exact .fixed (by simp) ⟨.str _, .str _⟩
  | record parts ih =>
      refine .fixed (by simp) ⟨.str _, ?_⟩
      rw [fieldsToJson_eq_map]
      refine .arrayMap fun field member => ?_
      exact .fixed (by simp) ⟨.str _, ih field member, .bool _⟩

theorem faithful_option {type : Option TypeExpr}
    (represented : forall one, one ∈ type.toList -> one.Represented) :
    Faithful (optionToJson type) := by
  cases type with
  | none => exact .null
  | some type => exact (represented type (by simp)).faithful

end TypeExpr

/-! ## Routes -/

/-- A route item whose statuses differ and whose types are represented. -/
structure RouteItem.Tabled (item : RouteItem) : Prop where
  types : forall type, type ∈ item.types -> type.Represented
  statuses : (Keyed.keys item.responses).Nodup

theorem RouteItem.Tabled.faithful {item : RouteItem} (tabled : item.Tabled) :
    Faithful item.toJson := by
  refine .fixed (by simp [Keyed.keys]) ⟨.str _, .str _, .ofTexts _, .ofText _, .arrayMap ?_, ?_,
    .objectMap tabled.statuses ?_⟩
  · intro parameter member
    have type : parameter.type.Represented := by
      apply tabled.types
      exact List.mem_append_left _ (List.mem_append_left _ (List.mem_map_of_mem member))
    exact .fixed (by simp) ⟨.str _, .str _, .bool _, type.faithful, .bool _⟩
  · apply TypeExpr.faithful_option
    intro type member
    exact tabled.types type (List.mem_append_left _ (List.mem_append_right _ member))
  · intro response member
    apply TypeExpr.faithful_option
    intro type carried
    apply tabled.types
    refine List.mem_append_right _ (List.mem_filterMap.mpr ⟨response, member, ?_⟩)
    exact Option.mem_toList.mp carried

/-- Routes stand under the templates of their paths. -/
theorem Routes.keys_of_ofPaths {components : Components} {paths : List (String × List Operation)}
    {routes : Routes} (made : ofPaths components paths = .ok routes) :
    Keyed.keys routes = Keyed.keys paths := by
  rw [ofPaths_eq_mapM, Outcome.mapM_eq_ok_iff] at made
  refine (Outcome.map_eq_map_of_forall₂ made ?_).symm
  intro path route pathMade
  rcases Outcome.map_eq_ok_iff.mp pathMade with ⟨items, _, rfl⟩
  rfl

/-! ## Decoders -/

/-- The types that a plan decodes are represented. -/
structure DecoderPlan.Represented (plan : DecoderPlan) : Prop where
  refined : forall decoder, decoder ∈ plan.refinementDecoders ->
    (TypeExpr.primitive decoder.primitive).Represented
  lists : forall decoder, decoder ∈ plan.listDecoders ->
    (TypeExpr.primitive decoder.element).Represented
  enums : forall decoder, decoder ∈ plan.enumDecoders -> (TypeExpr.enum decoder.values).Represented

theorem DecoderPlan.Represented.faithful {plan : DecoderPlan} (represented : plan.Represented) :
    Faithful plan.toJson := by
  refine .fixed (by simp) ⟨.arrayMap ?_, .arrayMap ?_, .arrayMap ?_⟩
  · intro decoder member
    exact .fixed (by simp) ⟨.str _, (represented.refined decoder member).faithful⟩
  · intro decoder member
    have array : (TypeExpr.array (.primitive decoder.element)).Represented :=
      .array (represented.lists decoder member)
    exact .fixed (by simp) ⟨.str _, array.faithful, .ofText _⟩
  · intro decoder member
    refine .fixed (by simp) ⟨.str _, .arrayMap ?_⟩
    cases represented.enums decoder member with
    | enum literals => exact fun literal among => (literals literal among).faithful

namespace Interface

/-- What makes an interface faithful to its text: tables with distinct keys, and numbers in the
representation of their format. -/
structure Tabled (interface : Interface) : Prop where
  names : (Keyed.keys interface.components).Nodup
  components : forall component, component ∈ interface.components -> component.2.Represented
  templates : (Keyed.keys interface.routes).Nodup
  items : forall item, item ∈ interface.routes.items -> item.Tabled
  decoders : interface.decoders.Represented

theorem Tabled.faithful {interface : Interface} (tabled : interface.Tabled) :
    Faithful interface.toJson := by
  refine .fixed (by simp) ⟨.objectMap tabled.names ?_, .objectMap tabled.templates ?_,
    tabled.decoders.faithful⟩
  · exact fun component member => (tabled.components component member).faithful
  · intro path member
    refine .fixed (by simp) ⟨.str _, .arrayMap ?_⟩
    intro item itemMember
    exact (tabled.items item (List.mem_flatMap.mpr ⟨path, member, itemMember⟩)).faithful

/-! ## Interfaces of documents -/

theorem represented_of_componentsOf {tree : Tree} {document : Document} {components : Components}
    (represented : tree.Represented) (readOk : Document.read tree = .ok document)
    (typed : componentsOf document = .ok components) (component : String × TypeExpr)
    (member : component ∈ components) : component.2.Represented := by
  have made := Components.forall₂_of_ofSchemas (Outcome.mapError_eq_ok_iff.mp typed)
  rcases Outcome.exists_left_of_forall₂ made member with ⟨declared, declaredMember, componentOf⟩
  have inDocument : declared.2 ∈ document.schemas :=
    List.mem_append_left _ (List.mem_map_of_mem declaredMember)
  exact TypeExpr.represented_of_readInside represented
    (Document.readInside_of_schema readOk inDocument) componentOf.lowered

/-- The statuses of an operation are the keys of a table. -/
theorem nodup_statuses {tree : Tree} {document : Document}
    (readOk : Document.read tree = .ok document) {path : String × List Operation}
    (member : path ∈ document.paths) {operation : Operation} (among : operation ∈ path.2) :
    (Keyed.keys operation.responses).Nodup := by
  rcases Document.exists_pairs_of_paths readOk with ⟨pairs, table, pairsRead⟩
  rw [table] at member
  rcases Outcome.exists_left_of_forall₂ pairsRead (Keyed.mem_of_mem_ofList member) with
    ⟨entry, _, pathRead⟩
  rcases Outcome.exists_left_of_forall₂ (Document.declares_of_readPath pathRead).2 among with
    ⟨declaration, _, declares⟩
  rcases declares.operation.responses with ⟨responses, statuses, _⟩
  rw [statuses]
  exact Keyed.nodup_keys_ofList responses

theorem tabled_of_item {tree : Tree} {document : Document} {components : Components}
    {routes : Routes} (represented : tree.Represented) (readOk : Document.read tree = .ok document)
    (aggregated : routesOf components document = .ok routes) {item : RouteItem}
    (member : item ∈ routes.items) : item.Tabled := by
  rcases Routes.exists_operation_of_item (ofPaths_of_routesOf aggregated) member with
    ⟨path, pathMember, operation, operationMember, itemOf⟩
  constructor
  · intro type typeMember
    rcases itemOf.exists_schema typeMember with ⟨schema, schemaMember, location, lowered⟩
    have inDocument : schema ∈ document.schemas := by
      refine List.mem_append_right _ (List.mem_flatMap.mpr ⟨operation, ?_, schemaMember⟩)
      exact List.mem_flatMap.mpr ⟨path, pathMember, operationMember⟩
    exact TypeExpr.represented_of_readInside represented
      (Document.readInside_of_schema readOk inDocument) (Outcome.mapError_eq_ok_iff.mp lowered)
  · have sameKeys := Outcome.map_eq_map_of_forall₂ itemOf.responses fun _ _ one => one.1.symm
    rw [Keyed.keys, ← sameKeys]
    exact nodup_statuses readOk pathMember operationMember

theorem represented_of_decoders {tree : Tree} {interface : Interface}
    (represented : tree.Represented) (made : ofTree tree = .ok interface) :
    interface.decoders.Represented := by
  rcases (ofTree_eq_ok_iff tree interface).mp made with
    ⟨document, readOk, typed, aggregated, planned, _⟩
  have reached {type : TypeExpr}
      (reaches : interface.components.Reaches interface.routes.types type) : type.Represented := by
    refine reaches.of_hereditary (TypeExpr.hereditary_represented
      (represented_of_componentsOf represented readOk typed)) ?_
    intro root member
    rcases List.mem_flatMap.mp member with ⟨item, itemMember, typeMember⟩
    exact (tabled_of_item represented readOk aggregated itemMember).types root typeMember
  rcases DecoderPlan.exists_survey_of_routes (settled_of_componentsOf typed).closed
    (ofPaths_of_routesOf aggregated) with ⟨final, finalPlanned, _, _, serves⟩
  have same : interface.decoders = final.plan := Except.ok.inj (planned.symm.trans finalPlanned)
  have withoutFormat {scalar : Primitive} (whole : (TypeExpr.primitive scalar).Represented) :
      (TypeExpr.primitive scalar.withoutFormat).Represented := by
    cases whole with
    | primitive refinements => exact .primitive refinements
  rw [same]
  constructor
  · intro decoder member
    rcases serves.refined decoder member with ⟨scalar, wanted, _, rfl⟩
    exact withoutFormat (reached wanted)
  · intro decoder member
    rcases serves.lists decoder member with ⟨element, ⟨type, demanded, found⟩, sameElement⟩
    have root : interface.components.Reaches interface.routes.types type :=
      .root (Routes.type_mem_types_of_demand demanded)
    rcases (Components.listElement?_eq_some_iff _ _ _).mp found with
      ⟨array, resolved, elementResolved⟩
    rw [sameElement]
    exact withoutFormat (reached ((root.resolve resolved).element.resolve elementResolved))
  · intro decoder member
    rcases serves.enums decoder member with ⟨values, wanted, rfl⟩
    exact reached wanted

theorem tabled_of_ofTree {tree : Tree} {interface : Interface} (represented : tree.Represented)
    (made : ofTree tree = .ok interface) : interface.Tabled := by
  rcases (ofTree_eq_ok_iff tree interface).mp made with ⟨document, readOk, typed, aggregated, _⟩
  refine ⟨?_, represented_of_componentsOf represented readOk typed, ?_, ?_,
    represented_of_decoders represented made⟩
  · rcases (Document.read_eq_ok_iff tree document).mp readOk with ⟨_, _, _, _, componentsRead, _⟩
    rcases Document.exists_pairs_of_components componentsRead with ⟨pairs, table, _⟩
    rw [Components.keys_of_ofSchemas (Outcome.mapError_eq_ok_iff.mp typed), table]
    exact Keyed.nodup_keys_ofList pairs
  · rcases Document.exists_pairs_of_paths readOk with ⟨pairs, table, _⟩
    rw [Routes.keys_of_ofPaths (ofPaths_of_routesOf aggregated), table]
    exact Keyed.nodup_keys_ofList pairs
  · exact fun item member => tabled_of_item represented readOk aggregated member

/-- What is written of an interface is read as its tree, whatever is known of the format, but
for YAML.  Nothing is written where an integer has no text, and only there. -/
theorem readContent_dump {tree : Tree} {interface : Interface} (represented : tree.Represented)
    (made : ofTree tree = .ok interface) {format : Source.Format} (notYaml : format ≠ .yaml) :
    (interface.dump? = none ↔ interface.toJson.isLegible = false) ∧
      forall text, interface.dump? = some text ->
        Source.readContent format text = .ok interface.toJson.toTree := by
  have faithful := (tabled_of_ofTree represented made).faithful
  constructor
  · rw [dump?, Option.map_eq_none_iff, Json.dump?_eq_none_iff]
  · intro text dumped
    rcases Option.map_eq_some_iff.mp dumped with ⟨written, found, rfl⟩
    rcases Json.dump?_eq_some_iff.mp found with ⟨legible, rfl⟩
    rw [Source.readContent, if_neg notYaml, faithful.read_render legible]
    rfl

/-- A document with numbers of every notation, and texts that have to be escaped. -/
def numbersTree : Tree :=
  let tiny : Tree := .float (.finite false 1 0)
  let large : Tree := .float (.finite false 6755399441055744 1094)
  let parameter (name : String) (schema : Tree) : Tree :=
    .object [("name", .str name), ("in", .str "query"), ("schema", schema)]
  .object [
    ("components", .object [("schemas", .object [
      ("A \"quoted\" name\n", .object [("type", .str "object"),
        ("properties", .object [("\x07", .object [("type", .str "array"),
          ("items", .object [("enum", .list [tiny, .int (-12), .float (.nan 3), .bool true,
            .float (.infinity true)] none)])])])]),
      ("Empty", .object [("type", .str "object")])])]),
    ("paths", .object [("/a", .object [("get", .object [
      ("parameters", .list [
        parameter "limit" (.object [("type", .str "number"), ("minimum", tiny),
          ("maximum", large)]),
        parameter "word" (.object [("type", .str "string"), ("pattern", .str "^\\w+/\t$")])] none),
      ("responses", .object [("204", .object []), ("200", .object [("schema",
        .object [("$ref", .str "#/components/schemas/Empty")])])])])])])]

theorem readContent_dump_of_numbersTree : numbersTree.Represented ∧
    Exists fun interface => ofTree numbersTree = .ok interface ∧
      Exists fun text => interface.dump? = some text ∧
        Source.readContent .unknown text = .ok interface.toJson.toTree := by
  have represented : numbersTree.Represented := by decide +kernel
  have accepted : Exists fun interface => ofTree numbersTree = .ok interface :=
    Outcome.exists_of_isOk (by decide +kernel)
  rcases accepted with ⟨interface, made⟩
  have legible : interface.toJson.isLegible = true :=
    Outcome.part_eq_of_computed made (fun interface => interface.toJson.isLegible)
      (by decide +kernel)
  have notYaml : Source.Format.unknown ≠ .yaml := by decide
  rcases readContent_dump represented made notYaml with ⟨unwritten, reading⟩
  have written : interface.dump? ≠ none := by rw [ne_eq, unwritten, legible]; decide
  rcases Option.ne_none_iff_exists'.mp written with ⟨text, dumped⟩
  exact ⟨represented, interface, made, text, dumped, reading text dumped⟩

/-- A document with an unused schema, for integers up to a bound. -/
def boundTree (bound : Int) : Tree :=
  .object [
    ("components", .object [("schemas", .object [
      ("A", .object [("type", .str "integer"), ("maximum", .int bound)])])]),
    ("paths", .object [])]

/-- The document describes an interface, and there is no text of it. -/
theorem unwritten_longInteger :
    Exists fun interface => ofTree (boundTree DecoderPlan.longInteger) = .ok interface ∧
      interface.dump? = none := by
  have accepted : Exists fun interface =>
      ofTree (boundTree DecoderPlan.longInteger) = .ok interface :=
    Outcome.exists_of_isOk (by decide +kernel)
  rcases accepted with ⟨interface, made⟩
  have unwritten : interface.dump?.isNone = true :=
    Outcome.part_eq_of_computed made (fun interface => interface.dump?.isNone)
      (by decide +kernel)
  exact ⟨interface, made, Option.isNone_iff_eq_none.mp unwritten⟩

end Interface
end RouteIR
