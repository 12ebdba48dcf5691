import RouteIR.Proofs.Schema.KeyOrder
import RouteIR.Proofs.Tree.Spelling

namespace RouteIR

/-!
# Schemas with their keys respelled

A respelled node is read as the node is, with one exception.  The names that an object
requires are texts, and they are looked for among the keys of its properties as these stand,
although the fields that come of the properties bear what the keys read as.  So an object
may require what is a field of it and still be refused, and respelled it is not.
-/

namespace Outcome

theorem AgreeUnless.withText {ε δ α β : Type} {excused : ε -> Prop} {related : α -> β -> Prop}
    {left : Except ε α} {right : Except δ β} {key other : Tree} {illegible : ε} {unknown : δ}
    (agree : AgreeUnless excused related left right) (same : other.isLegible = key.isLegible) :
    AgreeUnless excused related (key.withText illegible left) (other.withText unknown right) := by
  rw [Tree.withText, Tree.withText, same]
  split
  · exact agree
  · exact .error illegible unknown

end Outcome

namespace Refinement

open Outcome (Agree)

theorem build_respelled (kind : RefinementKind) (value : Tree) :
    Agree Eq (build kind value) (build kind value.respelled) := by
  cases kind <;> cases value <;> first | exact .of_eq rfl | exact .error _ _

/-- A constraint with its value respelled. -/
def Constraint.respelled : Constraint -> Constraint
  | .declared key value => .declared key value.respelled
  | .made refinement => .made refinement

theorem ofConstraint_respelled (constraint : Constraint) :
    Agree Eq (ofConstraint constraint) (ofConstraint constraint.respelled) := by
  cases constraint with
  | made refinement => exact .of_eq rfl
  | declared key value =>
      rw [Constraint.respelled, ofConstraint, ofConstraint]
      cases RefinementKind.ofText? key with
      | none => exact .of_eq rfl
      | some kind =>
          apply (build_respelled kind value).map
          rintro refinement _ rfl
          rfl

theorem collect_respelled (found : List Refinement) (constraints : List Constraint) :
    Agree Eq (collect found constraints)
      (collect found (constraints.map Constraint.respelled)) := by
  induction constraints generalizing found with
  | nil => exact .of_eq rfl
  | cons constraint rest ih =>
      rw [List.map_cons, collect, collect]
      apply (ofConstraint_respelled constraint).bind
      rintro asked _ rfl
      cases asked with
      | none => exact ih found
      | some refinement =>
          dsimp only
          split
          · exact .error _ _
          · exact ih _

theorem normalForm_respelled (constraints : List Constraint) :
    Agree Eq (normalForm constraints) (normalForm (constraints.map Constraint.respelled)) := by
  rw [normalForm, normalForm]
  apply (collect_respelled [] constraints).bind
  rintro found _ rfl
  exact .of_eq rfl

end Refinement

/-- A name that an object requires, and that keys of its properties read as without being that
text. -/
structure Tree.HidesName (node : Tree) (name : String) : Prop where
  required : Exists fun names => Exists fun label =>
    Tree.field "required" node.entries = .list names label ∧ .str name ∈ names
  hidden : Tree.hasKey name (Tree.field "properties" node.entries).entries = false
  read : name ∈ Tree.keyTexts (Tree.field "properties" node.entries).entries

namespace Schema

open Outcome (Agree AgreeUnless)
open RouteIR.Tree (respelledEntry)

/-- The refusal of a node for a name that an object inside it hides. -/
def HiddenRefusal (node : Tree) (refusal : Refusal) : Prop :=
  Exists fun inner => Exists fun name => Exists fun steps => node.Holds inner ∧
    inner.HidesName name ∧ refusal = .fault ⟨steps, .invalid (.requiredNotProperty name)⟩

theorem HiddenRefusal.under {node child : Tree} (within : node.Holds child) (step : Step)
    {refusal : Refusal} (hidden : HiddenRefusal child refusal) :
    HiddenRefusal node (refusal.under step) := by
  rcases hidden with ⟨inner, name, steps, innerWithin, hides, rfl⟩
  exact ⟨inner, name, step :: steps, within.trans innerWithin, hides, rfl⟩

/-! ## Forms -/

def Form.respelled : Form -> Form
  | .reference target => .reference target.respelled
  | .enumeration values => .enumeration values.respelled
  | .unknown type => .unknown type.respelled
  | other => other

theorem formOfType_respelled (type : Tree) (hasProperties : Bool) :
    formOfType type.respelled hasProperties = (formOfType type hasProperties).respelled := by
  cases type with
  | null => cases hasProperties <;> rfl
  | str name =>
      rw [Tree.respelled_str, formOfType]
      split
      · rfl
      · split
        · rfl
        · split <;> rfl
  | _ => rfl

variable (entries : List (Tree × Tree))

theorem form_respelled : form (entries.map respelledEntry) = (form entries).respelled := by
  have keywords : compositionKeywords.find? (Tree.hasKey · (entries.map respelledEntry)) =
      compositionKeywords.find? (Tree.hasKey · entries) := by
    simp only [compositionKeywords, List.find?]
    rw [Tree.hasKey_respelled entries (by decide : Tree.isWord "allOf" = true),
      Tree.hasKey_respelled entries (by decide : Tree.isWord "oneOf" = true),
      Tree.hasKey_respelled entries (by decide : Tree.isWord "anyOf" = true),
      Tree.hasKey_respelled entries (by decide : Tree.isWord "not" = true)]
  rw [form, form, Tree.lookup?_respelled entries (by decide), keywords,
    Tree.lookup?_respelled entries (by decide), Tree.field_respelled entries (by decide),
    Tree.hasKey_respelled entries (by decide), formOfType_respelled]
  cases Tree.lookup? "$ref" entries with
  | some target => rfl
  | none =>
      cases compositionKeywords.find? (Tree.hasKey · entries) with
      | some keyword => rfl
      | none => cases Tree.lookup? "enum" entries <;> rfl

/-! ## Leaves -/

theorem parse_respelled (target : Tree) :
    Reference.parse target.respelled = Reference.parse target := by
  cases target <;> rfl

theorem readLiterals_respelled (values : List Tree) :
    Agree Eq (readLiterals values) (readLiterals (values.map Tree.respelled)) := by
  induction values with
  | nil => exact .of_eq rfl
  | cons value rest ih =>
      rw [List.map_cons, readLiterals, readLiterals]
      have literal : Literal.ofTree? value.respelled = Literal.ofTree? value := by
        cases value <;> rfl
      rw [literal]
      split
      · exact .error _ _
      · apply ih.map
        rintro literals _ rfl
        rfl

theorem readEnum_respelled (values : Tree) :
    Agree Eq (readEnum values) (readEnum values.respelled) := by
  cases values with
  | list values label =>
      rw [Tree.respelled_list, readEnum, readEnum]
      apply (readLiterals_respelled values).map
      rintro literals _ rfl
      rfl
  | _ => exact .error _ _

theorem isConstraintKey_display (key : Tree) :
    isConstraintKey (.str key.display) = isConstraintKey key := by
  by_cases isText : Exists fun text => key = .str text
  · rcases isText with ⟨text, rfl⟩
    rfl
  · have other := Tree.readsOther_display (not_exists.mp isText)
    have unstructured : key.display ∉ structuralKeys := by
      intro structural
      have words : forall word, word ∈ structuralKeys -> Tree.isWord word = true := by decide
      exact Tree.not_readsOther (words _ structural) other
    cases key with
    | str text => exact absurd ⟨text, rfl⟩ isText
    | _ => simpa [isConstraintKey] using unstructured

theorem isConstraintKey_respelledKey (key : Tree) :
    isConstraintKey key.respelledKey = isConstraintKey key := by
  cases legible : key.isLegible with
  | true => rw [Tree.respelledKey_of_isLegible legible, isConstraintKey_display]
  | false => rw [Tree.respelledKey_of_not_isLegible legible]

theorem readConstraints_respelled :
    readConstraints (entries.map respelledEntry) =
      (readConstraints entries).map fun entry => (entry.1, entry.2.respelled) := by
  rw [readConstraints, readConstraints, List.filter_map, List.map_map, List.map_map]
  have sameKeys : ((isConstraintKey ·.1) ∘ respelledEntry) =
      fun entry : Tree × Tree => isConstraintKey entry.1 := by
    funext entry
    exact isConstraintKey_respelledKey entry.1
  rw [sameKeys]
  simp only [Function.comp_def, respelledEntry, Tree.display_respelledKey]

theorem readPrimitive_respelled (kind : PrimitiveKind) :
    Agree LoweredAlike (readPrimitive kind entries)
      (readPrimitive kind (entries.map respelledEntry)) := by
  rw [readPrimitive, readPrimitive, Tree.field_respelled entries (by decide),
    Tree.optionalText_respelled, readConstraints_respelled, Tree.keysAreLegible_respelled]
  split
  · split
    · apply Agree.ok
      apply LoweredAlike.primitive_of_normalForm
      have sameConstraints := Refinement.normalForm_respelled
        ((readConstraints entries).map fun entry => .declared entry.1 entry.2)
      rwa [List.map_map] at sameConstraints ⊢
    · exact .error _ _
  · exact .error _ _

/-! ## Objects -/

theorem namesOf_respelled (items : List Tree) :
    namesOf (items.map Tree.respelled) = namesOf items := by
  induction items with
  | nil => rfl
  | cons item rest ih =>
      cases item with
      | str name => rw [List.map_cons, Tree.respelled_str, namesOf, namesOf, ih]
      | _ => rfl

theorem requiredOf_respelled : requiredOf (entries.map respelledEntry) = requiredOf entries := by
  rw [requiredOf, requiredOf, Tree.field_respelled entries (by decide)]
  simp only [Tree.isEmptyLike_respelled]
  split
  · rfl
  · cases Tree.field "required" entries with
    | list items label =>
        rw [Tree.respelled_list]
        simp only [namesOf_respelled]
    | _ => rfl

theorem propertiesOf_respelled :
    propertiesOf (entries.map respelledEntry) =
      (propertiesOf entries).map fun properties => properties.map respelledEntry := by
  rw [propertiesOf, propertiesOf, Tree.field_respelled entries (by decide),
    Tree.isEmptyLike_respelled]
  split
  · rfl
  · cases Tree.field "properties" entries with
    | map properties label => rw [Tree.respelled_map]; rfl
    | _ => rfl

theorem opensOrCloses_respelled (tree : Tree) :
    opensOrCloses tree.respelled = opensOrCloses tree := by
  cases tree <;> rfl

variable {entries}

/-- Where the checks on an object pass, they pass on the respelled object. -/
theorem objectParts_respelled_of_ok {properties : List (Tree × Tree)} {required : List String}
    (parts : objectParts entries = .ok (properties, required)) :
    objectParts (entries.map respelledEntry) = .ok (properties.map respelledEntry, required) := by
  rcases objectParts_eq_ok_iff.mp parts with ⟨declared, names, allFound, additional, patterns⟩
  refine objectParts_eq_ok_iff.mpr ⟨?_, ?_, ?_, ?_, ?_⟩
  · rw [propertiesOf_respelled, declared]
    rfl
  · rw [requiredOf_respelled, names]
  · exact fun name member => Tree.hasKey_respelled_of_hasKey properties (allFound name member)
  · rw [Tree.field_respelled entries (by decide), opensOrCloses_respelled, additional]
  · rw [Tree.field_respelled entries (by decide), Tree.isEmptyLike_respelled, patterns]

/-- The checks on an object pass for the same names, or fail, unless the object hides a name
that it requires. -/
theorem objectParts_respelled (label : Option Label) :
    AgreeUnless
      (fun fault => Exists fun name => (Tree.map entries label).HidesName name ∧
        fault = .here (.invalid (.requiredNotProperty name)))
      (fun parts changed => changed = (parts.1.map respelledEntry, parts.2))
      (objectParts entries) (objectParts (entries.map respelledEntry)) := by
  cases parts : objectParts entries with
  | ok found =>
      rw [objectParts_respelled_of_ok parts]
      exact .ok rfl
  | error fault =>
      cases changed : objectParts (entries.map respelledEntry) with
      | error other => exact .error fault other
      | ok other =>
          -- the respelled object passes all checks, so only a required name can fail the object
          rcases objectParts_eq_ok_iff.mp changed with
            ⟨declared, names, allFound, additional, patterns⟩
          rw [propertiesOf_respelled, Outcome.map_eq_ok_iff] at declared
          rcases declared with ⟨properties, declared, same⟩
          rw [requiredOf_respelled] at names
          rw [Tree.field_respelled entries (by decide), opensOrCloses_respelled] at additional
          rw [Tree.field_respelled entries (by decide), Tree.isEmptyLike_respelled] at patterns
          cases missing : other.2.find? fun name => !Tree.hasKey name properties with
          | none =>
              have allDeclared := find?_missing_eq_none_iff.mp missing
              rw [objectParts_eq_ok_iff.mpr ⟨declared, names, allDeclared, additional, patterns⟩]
                at parts
              cases parts
          | some name =>
              have member := List.mem_of_find?_eq_some missing
              have absent : Tree.hasKey name properties = false := by
                simpa using List.find?_some missing
              have reads : name ∈ Tree.keyTexts properties := by
                rw [← Tree.hasKey_respelled_iff, same]
                exact allFound name member
              rw [objectParts] at parts
              simp only [declared, names, missing] at parts
              cases parts
              rw [propertiesOf_eq_ok declared] at absent reads
              exact .excused ⟨name, ⟨exists_list_of_requiredOf names member, absent, reads⟩, rfl⟩ _

/-! ## Nodes -/

theorem readField_respelled {node : Tree} {property : Tree × Tree}
    (within : node.Holds property.2)
    (inner : AgreeUnless (HiddenRefusal property.2) LoweredAlike (read property.2)
      (read property.2.respelled)) :
    AgreeUnless (HiddenRefusal node)
      (fun field changed => field.1 = changed.1 ∧ LoweredAlike field.2 changed.2)
      (readField property) (readField (respelledEntry property)) := by
  rw [readField, readField, respelledEntry, Tree.display_respelledKey]
  apply ((inner.mapError fun _ hidden => hidden.under within _).withText
    (Tree.isLegible_respelledKey property.1)).map
  exact fun _ _ lowered => ⟨rfl, lowered⟩

/-- What holds of the properties of an object holds of the object. -/
theorem read_respelled_of_object {entries : List (Tree × Tree)} (label : Option Label)
    (isForm : form entries = .object)
    (ofProperty : forall properties required, objectParts entries = .ok (properties, required) ->
      forall property, property ∈ properties ->
        AgreeUnless (HiddenRefusal property.2) LoweredAlike (read property.2)
          (read property.2.respelled)) :
    AgreeUnless (HiddenRefusal (.map entries label)) LoweredAlike (read (.map entries label))
      (read (.map (entries.map respelledEntry) label)) := by
  have sameForm : form (entries.map respelledEntry) = .object := by
    rw [form_respelled, isForm]
    rfl
  rw [read_object isForm, read_object sameForm]
  have parts : AgreeUnless (HiddenRefusal (.map entries label))
      (fun parts changed => changed = (parts.1.map respelledEntry, parts.2))
      ((objectParts entries).mapError .fault)
      ((objectParts (entries.map respelledEntry)).mapError Refusal.fault) := by
    apply (objectParts_respelled label).mapError
    rintro _ ⟨name, hides, rfl⟩
    exact ⟨_, name, [], .root, hides, rfl⟩
  apply parts.bind
  rintro ⟨properties, required⟩ _ found rfl
  have found := Outcome.mapError_eq_ok_iff.mp found
  have fields : AgreeUnless (HiddenRefusal (.map entries label)) (Keyed.Related LoweredAlike)
      (properties.mapM readField) ((properties.map respelledEntry).mapM readField) := by
    apply Outcome.agreeUnless_mapM
    intro property member
    exact readField_respelled (holds_property found member label)
      (ofProperty properties required found property member)
  apply fields.bind
  intro table changed _ alike
  exact .ok (.object alike.ofList required)

/-- What holds of the items of an array holds of the array. -/
theorem read_respelled_of_array {entries : List (Tree × Tree)} (label : Option Label)
    (isForm : form entries = .array)
    (ofItem : forall item, Tree.lookup? "items" entries = some item ->
      AgreeUnless (HiddenRefusal item) LoweredAlike (read item) (read item.respelled)) :
    AgreeUnless (HiddenRefusal (.map entries label)) LoweredAlike (read (.map entries label))
      (read (.map (entries.map respelledEntry) label)) := by
  have sameForm : form (entries.map respelledEntry) = .array := by
    rw [form_respelled, isForm]
    rfl
  have whole : (Tree.map entries label).Holds (.map entries label) := .root
  rw [read_array isForm, read_array sameForm, Tree.lookup?_respelled entries (by decide)]
  cases found : Tree.lookup? "items" entries with
  | none => exact .error _ _
  | some item =>
      have inner := ofItem item found
      apply (inner.mapError fun _ hidden => hidden.under (whole.lookup found) .items).map
      exact fun _ _ alike => alike.array

theorem read_respelled_cases : NodeCases fun node =>
    AgreeUnless (HiddenRefusal node) LoweredAlike (read node) (read node.respelled) where
  leaf node leaf := by
    have respelledLeaf : forall entries label, node.respelled ≠ .map entries label := by
      intro entries label isMap
      rcases Tree.exists_map_of_respelled isMap with ⟨own, same⟩
      exact leaf own label same
    rw [not_read_of_leaf leaf, not_read_of_leaf respelledLeaf]
    exact .error _ _
  map entries label ofItem ofProperty := by
    have sameForm := form_respelled entries
    rw [Tree.respelled_map]
    cases isForm : form entries with
    | object => exact read_respelled_of_object label isForm ofProperty
    | array => exact read_respelled_of_array label isForm ofItem
    | primitive kind =>
        rw [isForm] at sameForm
        rw [read, read]
        simp only [sameForm, isForm, Form.respelled]
        exact (readPrimitive_respelled entries kind).unless
    | reference target =>
        rw [isForm] at sameForm
        rw [read, read]
        simp only [sameForm, isForm, Form.respelled, parse_respelled]
        exact (Agree.refl LoweredAlike.refl _).unless
    | enumeration values =>
        rw [isForm] at sameForm
        rw [read, read]
        simp only [sameForm, isForm, Form.respelled]
        apply Agree.unless
        apply ((readEnum_respelled values).mono ?_).mapError
        rintro schema _ rfl
        exact .refl schema
    | composition _ | untyped | unknown _ =>
        rw [isForm] at sameForm
        rw [read, read]
        simp only [sameForm, isForm, Form.respelled]
        exact .error _ _

/-- A respelled node is read as a schema that is lowered as that of the node, unless the node is
refused for a name that an object in it hides. -/
theorem read_respelled (node : Tree) :
    AgreeUnless (HiddenRefusal node) LoweredAlike (read node) (read node.respelled) :=
  read_respelled_cases.holds node

end Schema
end RouteIR
