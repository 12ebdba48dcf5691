import RouteIR.Proofs.Command.Inspection
import RouteIR.Proofs.Decoder.Naming
import RouteIR.Proofs.Interface.Stages
import RouteIR.Proofs.TypeExpr.Description

namespace RouteIR

/-!
# What a plain inspection prints

A plain inspection prints the cells of its table in lines.  The words of the tables, the numbers
and the names of the decoders hold no breaks.  So the cells are read again as they are in the
table just when no text that the table shows as it stands in the document holds one: a name, a
template, a status, a format, a pattern, or a literal of an enumeration that is decoded.
-/

open Text

/-! ## Names of decoders -/

theorem Digest.unbroken_shortHash (length : Nat) (text : String) :
    Unbroken (shortHash length text) := by
  have whole : Whole hexAlphabet := by decide
  exact whole.of_subset fun _ => mem_hexAlphabet_of_shortHash

/-- A number is rewritten for a name without a break. -/
theorem whole_nameChars {text : List Char} (numeral : Numeral text) :
    Whole (text.flatMap nameChars) := by
  have whole : Whole (numeralAlphabet.flatMap nameChars) := by decide
  apply whole_flatMap_iff.mpr
  intro source inText
  exact whole_flatMap_iff.mp whole source (numeral.mem_numeralAlphabet inText)

namespace Refinement

theorem whole_valueChars (refinement : Refinement) : Whole refinement.valueChars := by
  cases refinement with
  | minLength value => exact whole_nameChars (numeral_of_int value)
  | maxLength value => exact whole_nameChars (numeral_of_int value)
  | minimum value => exact whole_nameChars value.numeral_text
  | maximum value => exact whole_nameChars value.numeral_text
  | pattern text => exact Digest.unbroken_shortHash 8 text

theorem unbroken_slug (refinement : Refinement) : Unbroken refinement.slug := by
  have kind : Unbroken refinement.kind.slug := by cases refinement.kind <;> decide
  rw [Unbroken, toList_slug, whole_append_iff, whole_cons_iff]
  exact ⟨kind, by decide, refinement.whole_valueChars⟩

end Refinement

theorem RefinementDecoder.unbroken_nameFor (scalar : Primitive) : Unbroken (nameFor scalar) := by
  have kind : Unbroken (scalar.kind.text ++ "_") := by cases scalar.kind <;> decide
  rw [nameFor, unbroken_append_iff, unbroken_intercalate_iff (by decide), List.forall_mem_map]
  exact ⟨kind, fun refinement _ => refinement.unbroken_slug⟩

theorem EnumDecoder.unbroken_nameFor (values : List Literal) : Unbroken (nameFor values) := by
  rw [nameFor, unbroken_append_iff]
  exact ⟨by decide, Digest.unbroken_shortHash 10 _⟩

namespace DecoderPlan.Linked

variable {plan : DecoderPlan}

theorem unbroken_check (linked : plan.Linked) {decoder : RefinementDecoder}
    (member : decoder ∈ plan.refinementDecoders) : Unbroken decoder.name := by
  rw [(linked.refined decoder member).2]
  exact RefinementDecoder.unbroken_nameFor decoder.primitive

/-- A list decoder is named for its element, by its kind or by the name of its decoder. -/
theorem unbroken_list (linked : plan.Linked) {decoder : ListDecoder}
    (member : decoder ∈ plan.listDecoders) :
    Unbroken decoder.name ∧
      forall name, decoder.elementDecoder = some name -> Unbroken name := by
  rcases linked.lists decoder member with ⟨named, link⟩
  rw [named, ListDecoder.nameFor, unbroken_append_iff]
  cases link with
  | plain _ unnamed =>
      rw [unnamed]
      have kind : Unbroken decoder.element.kind.text := by cases decoder.element.kind <;> decide
      exact ⟨⟨by decide, kind⟩, nofun⟩
  | @checked check inPlan _ checkNamed =>
      rw [checkNamed]
      have unbroken := linked.unbroken_check inPlan
      exact ⟨⟨by decide, unbroken⟩, fun name same => Option.some.inj same ▸ unbroken⟩

theorem unbroken_enum (linked : plan.Linked) {decoder : EnumDecoder}
    (member : decoder ∈ plan.enumDecoders) : Unbroken decoder.name := by
  rw [linked.enums decoder member]
  exact EnumDecoder.unbroken_nameFor decoder.values

end DecoderPlan.Linked

/-! ## Rows -/

/-- The text of a literal that is spelled out where it is not escaped. -/
def Literal.spelled : Literal -> List String
  | str text => [text]
  | _ => []

theorem Literal.unbroken_display_iff (literal : Literal) :
    Unbroken literal.toTree.display ↔ AllUnbroken literal.spelled := by
  cases literal with
  | bool value =>
      refine iff_of_true ?_ nofun
      cases value <;> decide
  | int value => exact iff_of_true (unbroken_of_int value) nofun
  | float value => exact iff_of_true (unbroken_of_numeral (Number.float value).numeral_text) nofun
  | str text => exact allUnbroken_singleton_iff.symm

namespace Inspection

theorem unbroken_orDash_iff {text : String} : Unbroken (orDash text) ↔ Unbroken text := by
  rw [orDash]
  split
  · next empty =>
      rw [String.isEmpty_iff.mp empty]
      decide
  · exact Iff.rfl

/-! ### Components -/

/-- The texts that the detail of a component spells out. -/
def detailTexts : TypeExpr -> List String
  | .record fields => fields.flatMap fun field => field.name :: field.type.spelled
  | type => type.spelled

/-- The texts that the row of a component spells out. -/
def componentTexts (entry : String × TypeExpr) : List String := entry.1 :: detailTexts entry.2

theorem unbroken_fieldText_iff (field : Field TypeExpr) :
    Unbroken (fieldText field) ↔ AllUnbroken (field.name :: field.type.spelled) := by
  have mark : Unbroken (if field.required then "" else "?") := by split <;> decide
  have colon : Unbroken ": " := by decide
  rw [fieldText, unbroken_append_iff, unbroken_append_iff, unbroken_append_iff,
    and_iff_left mark, and_iff_left colon, field.type.unbroken_describe_iff]
  exact allUnbroken_cons_iff.symm

theorem unbroken_detail_iff (type : TypeExpr) :
    Unbroken (detail type) ↔ AllUnbroken (detailTexts type) := by
  cases type with
  | record fields => exact unbroken_listing_iff fun field _ => unbroken_fieldText_iff field
  | primitive | array | enum | ref => exact TypeExpr.unbroken_describe_iff _

theorem unbroken_componentRow_iff (entry : String × TypeExpr) :
    AllUnbroken (componentRow entry) ↔ AllUnbroken (componentTexts entry) := by
  have shape : Unbroken entry.2.shape.text := by cases entry.2.shape <;> decide
  rw [componentRow, componentTexts, allUnbroken_cons_iff, allUnbroken_cons_iff,
    allUnbroken_singleton_iff, and_iff_right shape, unbroken_orDash_iff, unbroken_detail_iff,
    allUnbroken_cons_iff]

/-! ### Routes -/

/-- The texts that the row of a route spells out. -/
def routeTexts (item : RouteItem) : List String :=
  [item.template] ++ item.operationId.toList ++ item.parameters.map (·.name) ++
    item.requestBody.toList.flatMap TypeExpr.spelled ++ Keyed.keys item.responses

theorem unbroken_signature_iff (item : RouteItem) :
    Unbroken item.signature ↔ Unbroken item.template := by
  have method : Unbroken (item.method.upperText ++ " ") := by cases item.method <;> decide
  rw [RouteItem.signature, unbroken_append_iff, and_iff_right method]

theorem unbroken_parameterText_iff (parameter : Parameter) :
    Unbroken (parameterText parameter) ↔ Unbroken parameter.name := by
  have location : Unbroken (parameter.location.text ++ ":") := by
    cases parameter.location <;> decide
  have mark : Unbroken (if parameter.listValued then "[]" else "") := by split <;> decide
  rw [parameterText, unbroken_enclosed_iff location mark]

theorem unbroken_bodyText_iff (body : Option TypeExpr) :
    Unbroken (bodyText body) ↔ AllUnbroken (body.toList.flatMap TypeExpr.spelled) := by
  cases body with
  | none => exact iff_of_true (by decide) nofun
  | some type =>
      rw [Option.toList_some, List.flatMap_singleton]
      exact type.unbroken_describe_iff

theorem unbroken_operation_iff (operationId : Option String) :
    Unbroken (orDash (operationId.getD "")) ↔ AllUnbroken operationId.toList := by
  rw [unbroken_orDash_iff]
  cases operationId with
  | none => exact iff_of_true (by decide) nofun
  | some name => exact allUnbroken_singleton_iff.symm

theorem unbroken_routeRow_iff (item : RouteItem) :
    AllUnbroken (routeRow item) ↔ AllUnbroken (routeTexts item) := by
  have comma : Unbroken ", " := by decide
  have parameters : Unbroken (", ".intercalate (item.parameters.map parameterText)) ↔
      AllUnbroken (item.parameters.map (·.name)) := by
    rw [unbroken_intercalate_iff comma, List.forall_mem_map]
    refine Iff.trans ?_ List.forall_mem_map.symm
    exact forall₂_congr fun parameter _ => unbroken_parameterText_iff parameter
  have responses : Unbroken (", ".intercalate (Keyed.keys item.responses)) ↔
      AllUnbroken (Keyed.keys item.responses) := unbroken_intercalate_iff comma
  rw [routeRow, routeTexts, allUnbroken_cons_iff, allUnbroken_cons_iff, allUnbroken_cons_iff,
    allUnbroken_cons_iff, allUnbroken_append_iff, allUnbroken_append_iff, allUnbroken_append_iff,
    allUnbroken_append_iff, allUnbroken_singleton_iff, allUnbroken_singleton_iff,
    unbroken_signature_iff, unbroken_operation_iff, unbroken_orDash_iff, unbroken_orDash_iff,
    unbroken_bodyText_iff, parameters, responses]
  simp only [and_assoc]

/-! ### Decoders -/

/-- The texts that the rows of decoders spell out. -/
def decoderTexts (plan : DecoderPlan) : List String :=
  plan.refinementDecoders.flatMap (fun decoder => decoder.primitive.spelled) ++
    plan.listDecoders.flatMap (fun decoder => decoder.element.spelled) ++
    plan.enumDecoders.flatMap (fun decoder => decoder.values.flatMap Literal.spelled)

section Decoders

variable {plan : DecoderPlan}

theorem unbroken_refinementRow_iff (linked : plan.Linked) {decoder : RefinementDecoder}
    (member : decoder ∈ plan.refinementDecoders) :
    AllUnbroken (refinementRow decoder) ↔ AllUnbroken decoder.primitive.spelled := by
  have kind : Unbroken "refinement" := by decide
  rw [refinementRow, allUnbroken_cons_iff, allUnbroken_cons_iff, allUnbroken_singleton_iff,
    and_iff_right kind, and_iff_right (linked.unbroken_check member),
    decoder.primitive.unbroken_describe_iff]

theorem unbroken_listRow_iff (linked : plan.Linked) {decoder : ListDecoder}
    (member : decoder ∈ plan.listDecoders) :
    AllUnbroken (listRow decoder) ↔ AllUnbroken decoder.element.spelled := by
  have kind : Unbroken "list" := by decide
  rcases linked.unbroken_list member with ⟨named, element⟩
  rw [listRow, allUnbroken_cons_iff, allUnbroken_cons_iff, allUnbroken_singleton_iff,
    and_iff_right kind, and_iff_right named, unbroken_append_iff, TypeExpr.unbroken_describe_iff]
  apply and_iff_left
  split
  · decide
  · decide
  · next name _ given =>
      rw [unbroken_append_iff]
      exact ⟨by decide, element name given⟩

theorem unbroken_enumRow_iff (linked : plan.Linked) {decoder : EnumDecoder}
    (member : decoder ∈ plan.enumDecoders) :
    AllUnbroken (enumRow decoder) ↔ AllUnbroken (decoder.values.flatMap Literal.spelled) := by
  have kind : Unbroken "enum" := by decide
  rw [enumRow, allUnbroken_cons_iff, allUnbroken_cons_iff, allUnbroken_singleton_iff,
    and_iff_right kind, and_iff_right (linked.unbroken_enum member)]
  exact unbroken_listing_iff fun literal _ => literal.unbroken_display_iff

end Decoders

/-! ### Tables -/

theorem unbroken_components_iff (interface : Interface) :
    (forall row, row ∈ (components interface).rows -> AllUnbroken row) ↔
      AllUnbroken (interface.components.flatMap componentTexts) := by
  rw [components, List.forall_mem_map, allUnbroken_flatMap_iff]
  exact forall₂_congr fun entry _ => unbroken_componentRow_iff entry

theorem unbroken_routes_iff (interface : Interface) :
    (forall row, row ∈ (routes interface).rows -> AllUnbroken row) ↔
      AllUnbroken (interface.routes.items.flatMap routeTexts) := by
  rw [routes, List.forall_mem_map, allUnbroken_flatMap_iff]
  exact forall₂_congr fun item _ => unbroken_routeRow_iff item

theorem unbroken_decoders_iff {interface : Interface} (linked : interface.decoders.Linked) :
    (forall row, row ∈ (decoders interface).rows -> AllUnbroken row) ↔
      AllUnbroken (decoderTexts interface.decoders) := by
  rw [decoders, decoderTexts, List.forall_mem_append, List.forall_mem_append, List.forall_mem_map,
    List.forall_mem_map, List.forall_mem_map, allUnbroken_append_iff, allUnbroken_append_iff,
    allUnbroken_flatMap_iff, allUnbroken_flatMap_iff, allUnbroken_flatMap_iff]
  apply and_congr
  · apply and_congr
    · exact forall₂_congr fun _ member => unbroken_refinementRow_iff linked member
    · exact forall₂_congr fun _ member => unbroken_listRow_iff linked member
  · exact forall₂_congr fun _ member => unbroken_enumRow_iff linked member

end Inspection

/-! ## Inspecting -/

namespace Command

open World

/-- A command that inspects a document, with its view and the texts that its table spells out. -/
inductive Tabulates (source : Option String) :
    CommandLine.Command -> View -> (Interface -> List String) -> Prop
  | components : Tabulates source (.inspectComponents source) Inspection.componentView
      fun interface => interface.components.flatMap Inspection.componentTexts
  | routes : Tabulates source (.inspectRoutes source) Inspection.routeView
      fun interface => interface.routes.items.flatMap Inspection.routeTexts
  | decoders : Tabulates source (.inspectDecoders source) Inspection.decoderView
      fun interface => Inspection.decoderTexts interface.decoders

namespace Tabulates

variable {source : Option String} {command : CommandLine.Command} {view : View}
  {texts : Interface -> List String}

theorem run_eq (tabulates : Tabulates source command view texts) (output : Output)
    (entries : List RendererEntry) :
    (run output entries command : Action Run Unit) = inspect output view source := by
  cases tabulates <;> rfl

theorem unbroken_headers (tabulates : Tabulates source command view texts)
    (interface : Interface) : AllUnbroken (view.table interface).headers := by
  cases tabulates with
  | components => exact (by decide : AllUnbroken ["Component", "Shape", "Type"])
  | routes => exact (by decide :
      AllUnbroken ["Route", "Operation", "Parameters", "Body", "Responses"])
  | decoders => exact (by decide : AllUnbroken ["Kind", "Decoder", "Decodes"])

/-- All rows of a table are as long as its headers, and those are not empty. -/
theorem length_row (tabulates : Tabulates source command view texts) {interface : Interface}
    {row : List String} (member : row ∈ (view.table interface).rows) :
    row.length = (view.table interface).headers.length := by
  cases tabulates with
  | components =>
      rcases List.mem_map.mp member with ⟨_, _, rfl⟩
      rfl
  | routes =>
      rcases List.mem_map.mp member with ⟨_, _, rfl⟩
      rfl
  | decoders =>
      rcases List.mem_append.mp member with others | ofEnum
      · rcases List.mem_append.mp others with ofRefinement | ofList
        · rcases List.mem_map.mp ofRefinement with ⟨_, _, rfl⟩
          rfl
        · rcases List.mem_map.mp ofList with ⟨_, _, rfl⟩
          rfl
      · rcases List.mem_map.mp ofEnum with ⟨_, _, rfl⟩
        rfl

theorem filled_headers (tabulates : Tabulates source command view texts)
    (interface : Interface) : (view.table interface).headers ≠ [] := by
  cases tabulates with
  | components => nofun
  | routes => nofun
  | decoders => nofun

theorem unbroken_iff (tabulates : Tabulates source command view texts) {interface : Interface}
    (linked : interface.decoders.Linked) :
    (forall row, row ∈ (view.table interface).rows -> AllUnbroken row) ↔
      AllUnbroken (texts interface) := by
  cases tabulates with
  | components => exact Inspection.unbroken_components_iff interface
  | routes => exact Inspection.unbroken_routes_iff interface
  | decoders => exact Inspection.unbroken_decoders_iff linked

end Tabulates

/-- A document with one component, a text of some pattern. -/
def patternDocument (pattern : String) : String :=
  "\x7b\"paths\":\x7b\x7d,\"components\":\x7b\"schemas\":\x7b\"T\":\x7b" ++
    "\"type\":\"string\",\"pattern\":\"" ++ pattern ++ "\"\x7d\x7d\x7d\x7d"

def patternWorld (pattern : String) : World :=
  { World.bare ["w"] ⟨true, ["home"]⟩ with
    files := ⟨[(["w"], .directory),
      (["w", "d.json"], .file (patternDocument pattern).toUTF8.toList)]⟩ }

end Command
end RouteIR
