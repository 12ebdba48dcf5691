import RouteIR.Proofs.Refinement.NormalForm
import RouteIR.Proofs.Schema.Reading
import RouteIR.Proofs.Tree.KeyOrder
import RouteIR.TypeExpr.Lowering

namespace RouteIR

/-!
# Schemas with their keys in another order

A primitive keeps its constraints in document order, so schemas that are read from reordered
nodes need not be equal.  What is left of the order after lowering is nothing: a primitive
takes the normal form of its constraints, known keys and unknown ones alike, and every other
part of a schema is looked up.  Schemas are therefore compared by what they are lowered to.
-/

namespace Outcome

variable {ε δ α β : Type} {related : α -> β -> Prop} {left : Except ε α} {right : Except δ β}

/-- Two keys that both have a text, or both have none, make no difference. -/
theorem Agree.withText {key other : Tree} {illegible : ε} {unknown : δ}
    (agree : Agree related left right) (same : other.isLegible = key.isLegible) :
    Agree related (key.withText illegible left) (other.withText unknown right) := by
  rw [Tree.withText, Tree.withText, same]
  split
  · exact agree
  · exact .error illegible unknown

/-- Where both computations fail in any case, no text makes a difference. -/
theorem agree_withText_error (key other : Tree) (illegible failure : ε) (unknown refused : δ) :
    Agree related (key.withText illegible (.error failure))
      (other.withText unknown (.error refused)) := by
  rw [Tree.withText, Tree.withText]
  split <;> split <;> exact .error _ _

end Outcome

namespace Schema

/-- Two schemas that are lowered alike wherever they stand: to one type, or both to none. -/
def LoweredAlike (left right : Schema) : Prop :=
  forall names position, Outcome.Agree Eq (TypeExpr.ofSchema names position left)
    (TypeExpr.ofSchema names position right)

theorem LoweredAlike.refl (schema : Schema) : LoweredAlike schema schema :=
  fun _ _ => .of_eq rfl

theorem agree_ofFields {fields others : List (String × Schema)}
    (alike : Keyed.Related LoweredAlike fields others) (names required : List String) :
    Outcome.Agree Eq (TypeExpr.ofFields names required fields)
      (TypeExpr.ofFields names required others) := by
  induction alike with
  | nil => exact .of_eq rfl
  | @cons field other _ _ first _ ih =>
      rcases field with ⟨name, schema⟩
      rcases other with ⟨otherName, otherSchema⟩
      rcases first with ⟨rfl, lowered⟩
      rw [TypeExpr.ofFields, TypeExpr.ofFields]
      apply (lowered names .nested).mapError.bind
      rintro type _ rfl
      apply ih.bind
      rintro rest _ rfl
      exact .of_eq rfl

namespace LoweredAlike

theorem object {fields others : List (String × Schema)}
    (alike : Keyed.Related LoweredAlike fields others) (required : List String) :
    LoweredAlike (.object fields required) (.object others required) := by
  intro names position
  cases position with
  | component =>
      rw [TypeExpr.ofSchema, TypeExpr.ofSchema]
      apply (agree_ofFields alike names required).map
      rintro types _ rfl
      rfl
  | nested => exact .error _ _
  | route => exact .error _ _

theorem array {element other : Schema} (alike : LoweredAlike element other) :
    LoweredAlike (.array element) (.array other) := by
  intro names position
  rw [TypeExpr.ofSchema, TypeExpr.ofSchema]
  apply (alike names position.ofItems).mapError.map
  rintro type _ rfl
  rfl

/-- Of the constraints of a primitive only the normal form counts. -/
theorem primitive_of_normalForm (kind : PrimitiveKind) (format : Option String)
    {constraints others : List (String × Tree)}
    (same : Outcome.Agree Eq
      (Refinement.normalForm (constraints.map fun entry => .declared entry.1 entry.2))
      (Refinement.normalForm (others.map fun entry => .declared entry.1 entry.2))) :
    LoweredAlike (.primitive kind format constraints) (.primitive kind format others) := by
  intro names position
  have built : Outcome.Agree Eq (Primitive.ofConstraints kind format constraints)
      (Primitive.ofConstraints kind format others) := by
    rw [Primitive.ofConstraints, Primitive.ofConstraints]
    apply same.bind
    rintro refinements _ rfl
    exact .of_eq rfl
  rw [TypeExpr.ofSchema, TypeExpr.ofSchema]
  apply built.mapError.map
  rintro scalar _ rfl
  rfl

/-- The order of constraints means nothing. -/
theorem primitive (kind : PrimitiveKind) (format : Option String)
    {constraints others : List (String × Tree)} (order : constraints.Perm others) :
    LoweredAlike (.primitive kind format constraints) (.primitive kind format others) :=
  primitive_of_normalForm kind format (Refinement.normalForm_perm (order.map _))

end LoweredAlike

/-! ## Reading nodes -/

section Node

variable {entries others : List (Tree × Tree)}

theorem form_reordered (reordered : Tree.EntriesReordered .schema entries others) :
    form entries = form others := by
  have hasKeys (keyword : String) : Tree.hasKey keyword entries = Tree.hasKey keyword others :=
    reordered.hasKey_eq keyword
  have reference : Tree.lookup? "$ref" entries = Tree.lookup? "$ref" others :=
    reordered.lookup?_eq _ (by decide)
  have values : Tree.lookup? "enum" entries = Tree.lookup? "enum" others :=
    reordered.lookup?_eq _ (by decide)
  have type : Tree.field "type" entries = Tree.field "type" others :=
    reordered.field_eq _ (by decide)
  simp only [form, reference, values, type, hasKeys]

/-- Nothing is read on under a key that declares a constraint. -/
theorem inner_constraint {key : Tree} (constraint : isConstraintKey key = true) :
    Role.inner .schema key = none := by
  cases key with
  | str name =>
      have notProperties : name ≠ "properties" := by
        rintro rfl
        revert constraint
        decide
      have notItems : name ≠ "items" := by
        rintro rfl
        revert constraint
        decide
      simp [Role.inner, Role.member, Tree.isText, notProperties, notItems]
  | _ => rfl

theorem readConstraints_reordered (reordered : Tree.EntriesReordered .schema entries others) :
    (readConstraints entries).Perm (readConstraints others) := by
  rcases reordered with ⟨middle, related, arranged⟩
  have sameMiddle : entries.filter (isConstraintKey ·.1) = middle.filter (isConstraintKey ·.1) := by
    clear arranged
    induction related with
    | nil => rfl
    | @cons entry changed _ _ first _ ih =>
        rcases entry with ⟨key, value⟩
        rcases changed with ⟨changedKey, changedValue⟩
        rcases first with ⟨rfl, values⟩
        rw [List.filter_cons, List.filter_cons, ih]
        split
        · next constraint =>
            rw [inner_constraint constraint] at values
            have same : value = changedValue := values.eq_of_none
            rw [same]
        · rfl
  have order : middle.Perm others := by
    rcases arranged with rfl | ⟨_, _, order⟩
    · exact .refl _
    · exact order
  rw [readConstraints, sameMiddle]
  exact (order.filter _).map _

theorem readPrimitive_reordered (reordered : Tree.EntriesReordered .schema entries others)
    (kind : PrimitiveKind) :
    Outcome.Agree LoweredAlike (readPrimitive kind entries) (readPrimitive kind others) := by
  have format : Tree.field "format" entries = Tree.field "format" others :=
    reordered.field_eq _ (by decide)
  rw [readPrimitive, readPrimitive, format, reordered.keysAreLegible_eq]
  split
  · split
    · exact .ok (.primitive kind _ (readConstraints_reordered reordered))
    · exact .error _ _
  · exact .error _ _

/-- The properties of an object keep their order. -/
theorem propertiesOf_reordered (reordered : Tree.EntriesReordered .schema entries others) :
    Outcome.Agree (List.Forall₂ (Tree.EntryOf .properties)) (propertiesOf entries)
      (propertiesOf others) := by
  have view : Tree.ReorderedView .properties (Tree.field "properties" entries)
      (Tree.field "properties" others) :=
    (reordered.field_reordered "properties").view (by decide)
  rw [propertiesOf, propertiesOf, view.isEmptyLike_eq]
  split
  · exact .ok .nil
  · generalize Tree.field "properties" entries = one at view
    generalize Tree.field "properties" others = other at view
    cases view with
    | map related => exact .ok (related.inOrder rfl)
    | leaf notMap =>
        split
        · exact absurd rfl (notMap _ _)
        · exact .error _ _

theorem objectParts_reordered (reordered : Tree.EntriesReordered .schema entries others) :
    Outcome.Agree
      (fun one other => List.Forall₂ (Tree.EntryOf .properties) one.1 other.1 ∧ one.2 = other.2)
      (objectParts entries) (objectParts others) := by
  have required : requiredOf entries = requiredOf others := by
    rw [requiredOf, requiredOf, reordered.field_eq _ (by decide : _ = none)]
  have additional :
      Tree.field "additionalProperties" entries = Tree.field "additionalProperties" others :=
    reordered.field_eq _ (by decide)
  have patterns :
      Tree.field "patternProperties" entries = Tree.field "patternProperties" others :=
    reordered.field_eq _ (by decide)
  have properties := propertiesOf_reordered reordered
  rw [objectParts, objectParts, required, additional, patterns]
  generalize propertiesOf entries = one at properties ⊢
  generalize propertiesOf others = other at properties ⊢
  cases properties with
  | error first second => exact .error _ _
  | @ok left right related =>
      have hasKeys (name : String) : Tree.hasKey name left = Tree.hasKey name right := by
        have sameOrder : Tree.EntriesReordered .properties left right := ⟨right, related, Or.inl rfl⟩
        exact sameOrder.hasKey_eq name
      cases requiredOf others with
      | error rule => exact .error _ _
      | ok names =>
          simp only [hasKeys]
          split
          · exact .error _ _
          · split
            · exact .error _ _
            · split
              · exact .error _ _
              · exact .ok ⟨related, rfl⟩

theorem read_object (isObject : form entries = .object) (label : Option Label) :
    read (.map entries label) = do
      let parts ← (objectParts entries).mapError .fault
      let fields ← parts.1.mapM readField
      return .object (Keyed.ofList fields) parts.2 := by
  rw [read]
  simp only [isObject]
  split
  · next fault failed =>
      rw [failed]
      rfl
  · next properties required parts =>
      rw [parts, readFields_eq_mapM]
      rfl

theorem read_array (isArray : form entries = .array) (label : Option Label) :
    read (.map entries label) =
      match Tree.lookup? "items" entries with
      | none => refuse (.malformed .arrayWithoutItems)
      | some item => ((read item).mapError (.under .items)).map .array := by
  rw [read]
  simp only [isArray]
  split
  · next absent => rw [absent]
  · next item found => rw [found]

end Node

theorem readField_reordered {property other : Tree × Tree} (key : other.1 = property.1)
    (alike : Outcome.Agree LoweredAlike (read property.2) (read other.2)) :
    Outcome.Agree (fun field changed => field.1 = changed.1 ∧ LoweredAlike field.2 changed.2)
      (readField property) (readField other) := by
  rw [readField, readField, key]
  apply (alike.mapError.withText rfl).map
  exact fun _ _ lowered => ⟨rfl, lowered⟩

theorem read_cases : NodeCases fun node => forall other,
    Tree.KeysReordered (some .schema) node other ->
      Outcome.Agree LoweredAlike (read node) (read other) where
  leaf node leaf other reordered := by
    cases reordered.view (by decide) with
    | map entries => exact absurd rfl (leaf _ _)
    | leaf notMap => exact .refl LoweredAlike.refl _
  map entries label ofItem ofProperty other reordered := by
    cases reordered.view (by decide) with
    | leaf notMap => exact absurd rfl (notMap _ _)
    | @map _ others _ otherLabel related =>
        have sameForm := form_reordered related
        cases isForm : form entries with
        | object =>
            rw [read_object isForm, read_object (sameForm ▸ isForm)]
            apply (objectParts_reordered related).attach.mapError.bind
            rintro ⟨properties, required⟩ ⟨others, _⟩ ⟨⟨sameNames, rfl⟩, parts, _⟩
            have fields : Outcome.Agree (Keyed.Related LoweredAlike)
                (properties.mapM readField) (others.mapM readField) := by
              apply Outcome.agree_mapM
              apply Outcome.forall₂_imp_of_mem sameNames
              intro property member other entryOf
              apply readField_reordered entryOf.key
              exact ofProperty properties required parts property member _ entryOf.value
            apply fields.bind
            intro table changed alike
            exact .ok (.object alike.ofList required)
        | array =>
            rw [read_array isForm, read_array (sameForm ▸ isForm)]
            rcases related.foundAlike "items" with
              ⟨absent, missing⟩ | ⟨item, changed, found, otherFound, values⟩
            · rw [absent, missing]
              exact .error _ _
            · rw [found, otherFound]
              apply (ofItem item found changed values).mapError.map
              exact fun _ _ alike => alike.array
        | primitive kind =>
            rw [read, read]
            simp only [← sameForm, isForm]
            exact readPrimitive_reordered related kind
        | reference _ | composition _ | enumeration _ | untyped | unknown _ =>
            rw [read, read]
            simp only [← sameForm, isForm]
            exact .refl LoweredAlike.refl _

/-- A node whose keys are reordered, in itself and in the nodes inside it, is read just when
the node is, as a schema that is lowered alike. -/
theorem read_keysReordered {node other : Tree}
    (reordered : Tree.KeysReordered (some .schema) node other) :
    Outcome.Agree LoweredAlike (read node) (read other) :=
  read_cases.holds node other reordered

end Schema
end RouteIR
