import RouteIR.Proofs.Document.Identification
import RouteIR.Proofs.Document.Schemas

namespace RouteIR

/-!
# Reading documents whose values all have a text

A tree in which every integer has a text is read to schemas of that kind.  A rule that is
violated on the way shows values of the tree only, so its message can be made.
-/

open Outcome (Ends FailsAs)

theorem Outcome.Ends.withText {α ε : Type} {fine : α -> Prop} {borne : ε -> Prop}
    {outcome : Except ε α} (ends : Ends fine borne outcome) {tree : Tree}
    (legible : tree.isLegible = true) (illegible : ε) :
    Ends fine borne (tree.withText illegible outcome) := by
  rwa [Tree.withText_of_isLegible legible]

theorem Outcome.FailsAs.withText {α ε : Type} {borne : ε -> Prop} {outcome : Except ε α}
    (ends : FailsAs borne outcome) {tree : Tree} (legible : tree.isLegible = true)
    (illegible : ε) : FailsAs borne (tree.withText illegible outcome) :=
  Ends.withText ends legible illegible

/-! ## Trees -/

namespace Tree

theorem areLegible_iff (items : List Tree) :
    areLegible items = true ↔ forall item, item ∈ items -> item.isLegible = true := by
  induction items with
  | nil => simp [areLegible]
  | cons item rest ih => simp [areLegible, ih]

theorem entriesAreLegible_iff (entries : List (Tree × Tree)) :
    entriesAreLegible entries = true ↔ forall entry, entry ∈ entries ->
      entry.1.isLegible = true ∧ entry.2.isLegible = true := by
  induction entries with
  | nil => simp [entriesAreLegible]
  | cons entry rest ih => simp [entriesAreLegible, ih, and_assoc]

theorem isLegible_map (entries : List (Tree × Tree)) (label : Option Label) :
    (map entries label).isLegible = entriesAreLegible entries := by
  rw [isLegible]

theorem isLegible_list (items : List Tree) (label : Option Label) :
    (list items label).isLegible = areLegible items := by
  rw [isLegible]

section Entries

variable {entries : List (Tree × Tree)} (legible : entriesAreLegible entries = true)
include legible

theorem keysAreLegible_of_entries : keysAreLegible entries = true :=
  List.all_eq_true.mpr fun entry member =>
    ((entriesAreLegible_iff entries).mp legible entry member).1

theorem isLegible_lookup {key : String} {value : Tree} (found : lookup? key entries = some value) :
    value.isLegible = true := by
  induction entries with
  | nil => cases found
  | cons entry rest ih =>
      rcases entry with ⟨entryKey, entryValue⟩
      rw [entriesAreLegible, Bool.and_eq_true, Bool.and_eq_true] at legible
      rw [lookup?] at found
      split at found
      · cases found
        exact legible.1.2
      · exact ih legible.2 found

theorem isLegible_field (key : String) : (field key entries).isLegible = true := by
  rw [field]
  cases found : lookup? key entries with
  | none => rfl
  | some value => exact isLegible_lookup legible found

end Entries

/-- What lies inside a tree has a text when the whole has. -/
theorem isLegible_of_holds {tree inner : Tree} (legible : tree.isLegible = true)
    (within : tree.Holds inner) : inner.isLegible = true := by
  induction within with
  | root => exact legible
  | @entry outer entry within member ih =>
      cases outer with
      | map entries label =>
          rw [isLegible_map] at ih
          exact ((entriesAreLegible_iff entries).mp ih entry member).2
      | _ => cases member
  | item within member ih =>
      rw [isLegible_list] at ih
      exact (areLegible_iff _).mp ih _ member

end Tree

/-! ## Schemas -/

/-- All values in a schema have a text. -/
inductive Schema.Legible : Schema -> Prop
  | object {fields : List (String × Schema)} {required : List String}
      (parts : forall field, field ∈ fields -> Legible field.2) : Legible (.object fields required)
  | array {element : Schema} (part : Legible element) : Legible (.array element)
  | primitive {kind : PrimitiveKind} {format : Option String} {constraints : List (String × Tree)}
      (values : forall entry, entry ∈ constraints -> entry.2.isLegible = true) :
      Legible (.primitive kind format constraints)
  | enum {values : List Literal}
      (literals : forall literal, literal ∈ values -> literal.isLegible = true) :
      Legible (.enum values)
  | ref {name : String} : Legible (.ref name)

namespace Schema

/-- A refusal whose message has a text. -/
inductive Refusal.Shown : Refusal -> Prop
  | fault {fault : Fault} (legible : fault.rule.isLegible = true) : Shown (.fault fault)
  | formatNotText {reason : TextFault} : Shown (.formatNotText reason)

theorem Refusal.Shown.under {refusal : Refusal} (shown : refusal.Shown) (step : Step) :
    (refusal.under step).Shown := by
  cases shown with
  | fault legible => exact .fault legible
  | formatNotText => exact .formatNotText

theorem legible_readLiterals {values : List Tree} (legible : Tree.areLegible values = true) :
    Ends (fun literals => forall literal, literal ∈ literals -> literal.isLegible = true)
      (fun rule => rule.isLegible = true) (readLiterals values) := by
  induction values with
  | nil =>
      intro literal member
      cases member
  | cons value rest ih =>
      rw [Tree.areLegible, Bool.and_eq_true] at legible
      rw [readLiterals]
      cases found : Literal.ofTree? value with
      | none => exact legible.1
      | some literal =>
          have same : literal.isLegible = value.isLegible := by
            cases value <;> cases found <;> rfl
          apply (ih legible.2).map
          intro literals areLegible
          exact List.forall_mem_cons.mpr ⟨same.trans legible.1, areLegible⟩

theorem legible_readEnum {values : Tree} (legible : values.isLegible = true) :
    Ends Legible (fun rule => rule.isLegible = true) (readEnum values) := by
  cases values with
  | list items label =>
      rw [Tree.isLegible_list] at legible
      apply (legible_readLiterals legible).map
      intro literals areLegible
      exact .enum fun literal member => areLegible literal (Literal.mem_of_mem_distinct member)
  | _ => rfl

/-- No rule about required properties shows a value. -/
theorem legible_requiredOf (entries : List (Tree × Tree)) :
    FailsAs (fun rule => rule.isLegible = true) (requiredOf entries) := by
  unfold requiredOf
  dsimp only
  split
  · trivial
  · split
    · split
      · trivial
      · rfl
    · rfl

theorem legible_parse (target : Tree) :
    FailsAs (fun rule => rule.isLegible = true) (Reference.parse target) := by
  unfold Reference.parse
  split
  · split
    · rfl
    · dsimp only
      split
      · rfl
      · trivial
  · rfl

/-- The values that the form of a node shows have a text. -/
def Form.Legible : Form -> Prop
  | enumeration values => values.isLegible = true
  | unknown type => type.isLegible = true
  | _ => True

theorem legible_formOfType {type : Tree} (legible : type.isLegible = true)
    (hasProperties : Bool) : (formOfType type hasProperties).Legible := by
  unfold formOfType
  split
  · split <;> trivial
  · split
    · trivial
    · split
      · trivial
      · split <;> trivial
  · exact legible

section Nodes

variable {entries : List (Tree × Tree)} (legible : Tree.entriesAreLegible entries = true)
include legible

theorem legible_readPrimitive (kind : PrimitiveKind) :
    Ends Legible Refusal.Shown (readPrimitive kind entries) := by
  rw [readPrimitive, if_pos (Tree.keysAreLegible_of_entries legible)]
  split
  · refine .primitive ?_
    intro constraint member
    rcases List.mem_map.mp member with ⟨entry, entryMember, rfl⟩
    have kept := List.mem_of_mem_filter entryMember
    exact ((Tree.entriesAreLegible_iff entries).mp legible entry kept).2
  · exact .formatNotText

theorem legible_propertiesOf :
    Ends (fun properties => Tree.entriesAreLegible properties = true)
      (fun rule => rule.isLegible = true) (propertiesOf entries) := by
  have found := Tree.isLegible_field legible "properties"
  unfold propertiesOf
  split
  · rfl
  · split
    · next properties label isMap =>
        rw [isMap, Tree.isLegible_map] at found
        exact found
    · rfl

theorem legible_objectParts :
    Ends (fun parts => Tree.entriesAreLegible parts.1 = true)
      (fun fault => fault.rule.isLegible = true) (objectParts entries) := by
  have properties := legible_propertiesOf legible
  have required := legible_requiredOf entries
  unfold objectParts
  split
  · next rule _ refused => exact properties.failure refused
  · next _ rule _ refused => exact required.failure refused
  · next found names foundProperties _ =>
      split
      · rfl
      · split
        · rfl
        · split
          · rfl
          · exact properties.value foundProperties

theorem legible_form : (form entries).Legible := by
  unfold form
  split
  · trivial
  · split
    · trivial
    · split
      · next found => exact Tree.isLegible_lookup legible found
      · exact legible_formOfType (Tree.isLegible_field legible "type") _

end Nodes

theorem legible_readField {property : Tree × Tree} (named : property.1.isLegible = true)
    (ends : Ends Legible Refusal.Shown (read property.2)) :
    Ends (fun field => field.2.Legible) Refusal.Shown (readField property) := by
  have valueEnds := ends.mapError fun _ shown => shown.under (.property property.1.display)
  exact (valueEnds.withText named .illegible).map fun _ legible => legible

/-- A node whose values all have a text is read to such a schema, or refused with a message. -/
theorem legible_cases :
    NodeCases fun node => node.isLegible = true -> Ends Legible Refusal.Shown (read node) where
  leaf node leaf _ := by
    rw [not_read_of_leaf leaf]
    exact .fault rfl
  map entries label ofItem ofProperty legible := by
    rw [Tree.isLegible_map] at legible
    have formLegible := legible_form legible
    rw [read]
    split
    · next target _ =>
        have parsed : FailsAs Refusal.Shown
            ((Reference.parse target).mapError (.fault ∘ .here)) :=
          (legible_parse target).mapError fun _ shown => .fault shown
        exact Ends.map parsed fun name _ => .ref
    · exact .fault rfl
    · next values recognised =>
        rw [recognised] at formLegible
        exact (legible_readEnum formLegible).mapError fun _ shown => .fault shown
    · split
      · next fault refused => exact .fault ((legible_objectParts legible).failure refused)
      · next properties required parts =>
          have areLegible := (Tree.entriesAreLegible_iff properties).mp
            ((legible_objectParts legible).value parts)
          have fieldsEnd : Ends (fun fields => forall field, field ∈ fields -> field.2.Legible)
              Refusal.Shown (readFields properties) := by
            rw [readFields_eq_mapM]
            apply Outcome.ends_mapM
            intro property member
            exact legible_readField (areLegible property member).1
              (ofProperty properties required parts property member (areLegible property member).2)
          refine fieldsEnd.map fun fields fieldsLegible => .object ?_
          exact fun field member => fieldsLegible field (Keyed.mem_of_mem_ofList member)
    · split
      · exact .fault rfl
      · next item found =>
          have itemEnds := ofItem item found (Tree.isLegible_lookup legible found)
          exact (itemEnds.mapError fun _ shown => shown.under _).map fun _ part => .array part
    · exact legible_readPrimitive legible _
    · exact .fault rfl
    · next type recognised =>
        rw [recognised] at formLegible
        exact .fault formLegible

/-- A schema that was read from a legible tree is legible. -/
theorem legible_of_readInside {tree : Tree} (legible : tree.isLegible = true) {schema : Schema}
    (inside : ReadInside tree schema) : schema.Legible := by
  rcases inside with ⟨node, within, readOk⟩
  exact (legible_cases.holds node (Tree.isLegible_of_holds legible within)).value readOk

end Schema

/-! ## Documents -/

namespace Failure

/-- A failure whose message has a text. -/
def Shown (failure : Failure) : Prop := failure.raised ≠ .illegible

theorem shown_rule {violation : Violation} (legible : violation.rule.isLegible = true) :
    (rule violation).Shown := by
  rw [Shown, raised, if_pos legible]
  rintro ⟨⟩

theorem shown_notText (field : TextField) (fault : TextFault) : (notText field fault).Shown := by
  rintro ⟨⟩

theorem shown_compoundKey (kind : Compound) : (compoundKey kind).Shown := by
  rintro ⟨⟩

end Failure

namespace Document

theorem shown_malformed {α : Type} {fine : α -> Prop} {location : String} {reason : Malformation}
    (legible : reason.isLegible = true) : Ends fine Failure.Shown (malformed location reason) :=
  Failure.shown_rule legible

theorem shown_unsupported {α : Type} {fine : α -> Prop} {location : String} {feature : Feature}
    (legible : feature.isLegible = true) : Ends fine Failure.Shown (unsupported location feature) :=
  Failure.shown_rule legible

theorem shown_invalid {α : Type} {fine : α -> Prop} {location : String} {reason : Inconsistency}
    (legible : reason.isLegible = true) : Ends fine Failure.Shown (invalid location reason) :=
  Failure.shown_rule legible

theorem shown_refuse (location : String) (target : Tree) {feature : Feature}
    (legible : feature.isLegible = true) :
    (Failure.ofRule location (Reference.refuse target feature)).Shown := by
  apply Failure.shown_rule
  unfold Reference.refuse
  cases Reference.isLocal target with
  | false => rfl
  | true => exact legible

theorem shown_readSchema {node : Tree} (legible : node.isLegible = true) (location : String) :
    FailsAs Failure.Shown (readSchema location node) := by
  have ends := Schema.legible_cases.holds node legible
  rw [readSchema]
  cases outcome : Schema.read node with
  | ok schema => trivial
  | error refusal =>
      cases ends.failure outcome with
      | fault shown => exact Failure.shown_rule shown
      | formatNotText => exact Failure.shown_notText _ _

section Entries

variable {entries : List (Tree × Tree)} (legible : Tree.entriesAreLegible entries = true)
include legible

theorem shown_checkVersion : FailsAs Failure.Shown (checkVersion entries) := by
  unfold checkVersion
  split
  · next version found => exact shown_malformed (Tree.isLegible_lookup legible found)
  · have declared := Tree.isLegible_field legible "openapi"
    split
    · trivial
    · split
      · trivial
      · exact shown_malformed declared

end Entries

theorem shown_readParameter {parameter : Tree} (legible : parameter.isLegible = true)
    (location : String) :
    FailsAs Failure.Shown (readParameter location parameter) := by
  unfold readParameter
  split
  · rw [Tree.isLegible_map] at legible
    split
    · next target _ => exact shown_refuse location target rfl
    · split
      · split
        · exact shown_malformed rfl
        · dsimp only
          split
          · exact shown_unsupported rfl
          · split
            · exact shown_malformed (Tree.isLegible_field legible "in")
            · split
              · split
                · exact shown_unsupported rfl
                · exact shown_malformed rfl
              · next node found =>
                  split
                  · exact (shown_readSchema (Tree.isLegible_lookup legible found) _).map _
                  · exact shown_malformed rfl
      · exact shown_malformed rfl
  · exact shown_malformed rfl

theorem isLegible_firstMedia {media : List (Tree × Tree)}
    (legible : Tree.entriesAreLegible media = true) {mediaType node : Tree}
    (first : firstMedia? media = some (mediaType, node)) :
    mediaType.isLegible = true ∧ node.isLegible = true := by
  rcases exists_entry_of_firstMedia? first with ⟨⟨key, value⟩, member, rfl, found⟩
  have entryLegible := (Tree.entriesAreLegible_iff media).mp legible _ member
  cases value with
  | map inner label =>
      have valueLegible := entryLegible.2
      rw [Tree.isLegible_map] at valueLegible
      exact ⟨entryLegible.1, Tree.isLegible_lookup valueLegible found⟩
  | _ => cases found

theorem shown_readBody {body : Tree} (legible : body.isLegible = true) (location : String) :
    FailsAs Failure.Shown (readBody location body) := by
  unfold readBody
  split
  · trivial
  · rw [Tree.isLegible_map] at legible
    split
    · next target _ => exact shown_refuse location target rfl
    · split
      · next node found =>
          exact (shown_readSchema (Tree.isLegible_lookup legible found) _).map _
      · have content := Tree.isLegible_field legible "content"
        split
        · trivial
        · next media mediaLabel isMap =>
            rw [isMap, Tree.isLegible_map] at content
            split
            · trivial
            · next mediaType node first =>
                rcases isLegible_firstMedia content first with ⟨typeLegible, nodeLegible⟩
                exact ((shown_readSchema nodeLegible _).map _).withText typeLegible _
        · exact shown_malformed rfl
  · exact shown_malformed rfl

theorem legible_listOf (location : String) {tree : Tree} (legible : tree.isLegible = true) :
    Ends (fun items => Tree.areLegible items = true) Failure.Shown (listOf location tree) := by
  unfold listOf
  split
  · rfl
  · rwa [Tree.isLegible_list] at legible
  · exact shown_malformed rfl

theorem legible_responsesOf (location : String) {tree : Tree} (legible : tree.isLegible = true) :
    Ends (fun entries => Tree.entriesAreLegible entries = true) Failure.Shown
      (responsesOf location tree) := by
  unfold responsesOf
  split
  · rfl
  · split
    · rwa [Tree.isLegible_map] at legible
    · exact shown_malformed rfl

theorem shown_checkUnique (location : String) (seen : List (Identity × Identity))
    {parameters : List Tree} (legible : Tree.areLegible parameters = true) :
    FailsAs Failure.Shown (checkUnique location seen parameters) := by
  fun_induction checkUnique location seen parameters with
  | case1 => trivial
  | case2 => exact Failure.shown_compoundKey _
  | case3 seen entries label rest key keyFound taken name =>
      rw [Tree.areLegible, Bool.and_eq_true, Tree.isLegible_map] at legible
      exact (shown_invalid rfl).withText (Tree.isLegible_field legible.1 "name") _
  | case4 seen entries label rest key keyFound fresh ih =>
      rw [Tree.areLegible, Bool.and_eq_true] at legible
      exact ih legible.2
  | case5 seen parameter rest other ih =>
      rw [Tree.areLegible, Bool.and_eq_true] at legible
      exact ih legible.2

theorem shown_readParameters {parameters : List Tree}
    (legible : Tree.areLegible parameters = true) (location : String) :
    FailsAs Failure.Shown (readParameters location parameters) := by
  rw [readParameters_eq_mapM]
  apply Outcome.failsAs_mapM
  intro parameter member
  exact shown_readParameter ((Tree.areLegible_iff parameters).mp legible parameter member) location

theorem shown_readResponses {entries : List (Tree × Tree)}
    (legible : Tree.entriesAreLegible entries = true) (location : String) :
    FailsAs Failure.Shown (readResponses location entries) := by
  rw [readResponses_eq_mapM]
  apply Outcome.failsAs_mapM
  intro entry member
  have entryLegible := (Tree.entriesAreLegible_iff entries).mp legible entry member
  exact ((shown_readBody entryLegible.2 _).withText entryLegible.1 _).map _

theorem areLegible_mergeParameters {pathParameters declared : List Tree}
    (ofPath : Tree.areLegible pathParameters = true) (own : Tree.areLegible declared = true) :
    Tree.areLegible (mergeParameters pathParameters declared) = true := by
  rw [Tree.areLegible_iff] at ofPath own ⊢
  intro parameter member
  rcases List.mem_append.mp member with kept | added
  · exact ofPath parameter (List.mem_of_mem_filter kept)
  · exact own parameter added

section Operations

variable {entries : List (Tree × Tree)} (legible : Tree.entriesAreLegible entries = true)
  {pathParameters : List Tree}
include legible

theorem shown_readOperation (ofPath : Tree.areLegible pathParameters = true) (method : Method)
    (location : String) :
    FailsAs Failure.Shown (readOperation method location pathParameters entries) := by
  rw [readOperation]
  apply (legible_listOf _ (Tree.isLegible_field legible "parameters")).bind
  intro declared declaredLegible
  apply (shown_checkUnique _ _ declaredLegible).bind
  intro _ _
  apply (legible_responsesOf _ (Tree.isLegible_field legible "responses")).bind
  intro responses responsesLegible
  apply (shown_readParameters (areLegible_mergeParameters ofPath declaredLegible) _).bind
  intro _ _
  apply (shown_readBody (Tree.isLegible_field legible "requestBody") _).bind
  intro _ _
  apply (shown_readResponses responsesLegible _).bind
  intro _ _
  have identifier : FailsAs Failure.Shown
      (readOperationId (Tree.field "operationId" entries)) := by
    unfold readOperationId
    split
    · trivial
    · exact Failure.shown_notText _ _
  exact identifier.bind fun _ _ => trivial

theorem shown_readOperations (ofPath : Tree.areLegible pathParameters = true) (location : String)
    (seen : List Method) :
    FailsAs Failure.Shown (readOperations location pathParameters seen entries) := by
  induction entries generalizing seen with
  | nil => trivial
  | cons entry rest ih =>
      rcases entry with ⟨key, value⟩
      rw [Tree.entriesAreLegible, Bool.and_eq_true, Bool.and_eq_true] at legible
      rcases legible with ⟨⟨keyLegible, valueLegible⟩, restLegible⟩
      unfold readOperations
      apply Ends.withText _ keyLegible
      split
      · exact ih restLegible seen
      · dsimp only
        split
        · exact Failure.shown_rule rfl
        · split
          · rw [Tree.isLegible_map] at valueLegible
            apply (shown_readOperation valueLegible ofPath _ _).bind
            intro _ _
            exact (ih restLegible _).bind fun _ _ => trivial
          · exact shown_malformed rfl

theorem shown_readPathItem (location : String) :
    FailsAs Failure.Shown (readPathItem location entries) := by
  rw [readPathItem]
  apply (legible_listOf _ (Tree.isLegible_field legible "parameters")).bind
  intro pathParameters ofPath
  apply (shown_checkUnique _ _ ofPath).bind
  intro _ _
  exact shown_readOperations legible ofPath location []

theorem shown_readPaths : FailsAs Failure.Shown (readPaths entries) := by
  unfold readPaths
  split
  · exact shown_malformed rfl
  · next paths label found =>
      have pathsLegible := Tree.isLegible_lookup legible found
      rw [Tree.isLegible_map] at pathsLegible
      refine FailsAs.map ?_ _
      rw [readPathList_eq_mapM]
      apply Outcome.failsAs_mapM
      intro entry member
      have bothLegible := (Tree.entriesAreLegible_iff paths).mp pathsLegible entry member
      have entryLegible := bothLegible.2
      unfold readPath
      apply Ends.withText _ bothLegible.1
      dsimp only
      split
      · exact shown_malformed rfl
      · split
        · next inner innerLabel isMap =>
            rw [isMap, Tree.isLegible_map] at entryLegible
            split
            · next target _ => exact shown_refuse _ target rfl
            · exact (shown_readPathItem entryLegible _).map _
        · exact shown_malformed rfl
  · exact shown_malformed rfl

end Operations

theorem shown_readComponents {components : Tree} (legible : components.isLegible = true) :
    FailsAs Failure.Shown (readComponents components) := by
  unfold readComponents
  split
  · trivial
  · rw [Tree.isLegible_map] at legible
    have schemasLegible := Tree.isLegible_field legible "schemas"
    split
    · trivial
    · next schemas label isMap =>
        rw [isMap, Tree.isLegible_map] at schemasLegible
        refine FailsAs.map ?_ _
        rw [readComponentList_eq_mapM]
        apply Outcome.failsAs_mapM
        intro entry member
        have entryLegible := (Tree.entriesAreLegible_iff schemas).mp schemasLegible entry member
        exact ((shown_readSchema entryLegible.2 _).withText entryLegible.1 _).map _
    · exact shown_malformed rfl
  · exact shown_malformed rfl

/-- A legible tree is read, or refused with a message. -/
theorem shown_read {tree : Tree} (legible : tree.isLegible = true) :
    FailsAs Failure.Shown (read tree) := by
  unfold read
  split
  · rw [Tree.isLegible_map] at legible
    apply (shown_checkVersion legible).bind
    intro _ _
    apply (shown_readComponents (Tree.isLegible_field legible "components")).bind
    intro _ _
    exact (shown_readPaths legible).bind fun _ _ => trivial
  · exact shown_malformed rfl

end Document
end RouteIR
