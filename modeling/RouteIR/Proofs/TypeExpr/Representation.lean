import RouteIR.Proofs.Refinement.NormalForm
import RouteIR.Proofs.Schema.Reading
import RouteIR.Proofs.TypeExpr.Lowering

namespace RouteIR

/-!
# Numbers keep their representation

The floating-point numbers of a document become bounds and literals as they stand: nothing is
computed with them on the way from the tree to the types.  So where each of them has the
representation of its format in the tree, each has it in a type.
-/

namespace Tree

mutual

/-- Whether every floating-point number in a tree has the representation of its format. -/
def isRepresented : Tree -> Bool
  | float value => decide value.Canonical
  | list items _ => allRepresented items
  | tuple items _ => allRepresented items
  | set members => allRepresented members
  | map entries _ => entriesRepresented entries
  | _ => true

def allRepresented : List Tree -> Bool
  | [] => true
  | item :: rest => item.isRepresented && allRepresented rest

def entriesRepresented : List (Tree × Tree) -> Bool
  | [] => true
  | (key, value) :: rest => key.isRepresented && value.isRepresented && entriesRepresented rest

end

def Represented (tree : Tree) : Prop := tree.isRepresented = true

instance : DecidablePred Represented :=
  fun tree => inferInstanceAs (Decidable (tree.isRepresented = true))

theorem represented_float_iff (value : Binary64) : (float value).Represented ↔ value.Canonical :=
  decide_eq_true_iff

theorem Represented.item {items : List Tree} {label : Option Label}
    (represented : (list items label).Represented) {item : Tree} (member : item ∈ items) :
    item.Represented := by
  have all : allRepresented items = true := represented
  clear represented
  induction items with
  | nil => cases member
  | cons first rest ih =>
      rw [allRepresented, Bool.and_eq_true] at all
      rcases List.mem_cons.mp member with rfl | later
      · exact all.1
      · exact ih later all.2

theorem Represented.entry {tree : Tree} (represented : tree.Represented) {entry : Tree × Tree}
    (member : entry ∈ tree.entries) : entry.2.Represented := by
  cases tree with
  | map entries label =>
      have all : entriesRepresented entries = true := represented
      rw [Tree.entries] at member
      clear represented
      induction entries with
      | nil => cases member
      | cons first rest ih =>
          rw [entriesRepresented, Bool.and_eq_true, Bool.and_eq_true] at all
          rcases List.mem_cons.mp member with rfl | later
          · exact all.1.2
          · exact ih later all.2
  | _ => cases member

/-- What a represented tree holds is represented. -/
theorem Represented.of_holds {tree inner : Tree} (represented : tree.Represented)
    (within : tree.Holds inner) : inner.Represented := by
  induction within with
  | root => exact represented
  | entry _ member ih => exact ih.entry member
  | item _ member ih => exact ih.item member

end Tree

def Refinement.Represented (refinement : Refinement) : Prop :=
  forall value, refinement.number? = some (.float value) -> value.Canonical

def Literal.Represented (literal : Literal) : Prop :=
  forall value, literal = .float value -> value.Canonical

/-! ## Refinements -/

namespace Refinement

/-- A bound is the number that declares it. -/
theorem represented_of_build {kind : RefinementKind} {tree : Tree} {refinement : Refinement}
    (built : build kind tree = .ok refinement) (represented : tree.Represented) :
    refinement.Represented := by
  have ofBound {kind : RefinementKind} {number : Number} (read : boundOf kind tree = .ok number)
      (value : Binary64) (same : number = .float value) : value.Canonical := by
    cases tree with
    | float found =>
        cases read
        cases same
        exact (Tree.represented_float_iff value).mp represented
    | int found =>
        cases read
        cases same
    | _ => cases read
  intro value number
  cases kind with
  | minLength | maxLength =>
      rcases Outcome.map_eq_ok_iff.mp built with ⟨length, _, rfl⟩
      cases number
  | minimum | maximum =>
      rcases Outcome.map_eq_ok_iff.mp built with ⟨bound, read, rfl⟩
      exact ofBound read value (Option.some.inj number)
  | pattern =>
      cases tree with
      | str text =>
          cases built
          cases number
      | _ => cases built

end Refinement

/-- The refinements that constraints ask for have the numbers of the constraints. -/
theorem Primitive.represented_of_constraints {kind : PrimitiveKind} {format : Option String}
    {constraints : List (String × Tree)} {scalar : Primitive}
    (built : ofConstraints kind format constraints = .ok scalar)
    (represented : forall constraint, constraint ∈ constraints -> constraint.2.Represented)
    (refinement : Refinement) (member : refinement ∈ scalar.refinements) :
    refinement.Represented := by
  rw [ofConstraints] at built
  rcases Outcome.bind_eq_ok_iff.mp built with ⟨refinements, normal, built⟩
  split at built
  · cases built
  · cases built
    rcases (Refinement.mem_normalForm_iff normal refinement).mp member with
      ⟨constraint, constraintMember, asked⟩
    rcases List.mem_map.mp constraintMember with ⟨declared, declaredMember, rfl⟩
    rw [Refinement.ofConstraint] at asked
    split at asked
    · cases asked
    · rcases Outcome.map_eq_ok_iff.mp asked with ⟨found, built, same⟩
      cases same
      exact Refinement.represented_of_build built (represented declared declaredMember)

/-! ## Schemas -/

namespace Literal

theorem tree_of_float {tree : Tree} {number : Binary64}
    (isLiteral : ofTree? tree = some (.float number)) : tree = .float number := by
  cases tree with
  | float value =>
      cases isLiteral
      rfl
  | _ => cases isLiteral

theorem represented_of_readLiterals {values : List Tree} {literals : List Literal}
    (readOk : Schema.readLiterals values = .ok literals)
    (represented : forall value, value ∈ values -> value.Represented) (literal : Literal)
    (member : literal ∈ literals) : literal.Represented := by
  induction values generalizing literals with
  | nil =>
      cases readOk
      cases member
  | cons value rest ih =>
      rw [Schema.readLiterals] at readOk
      split at readOk
      · cases readOk
      · next first isFirst =>
          rcases Outcome.map_eq_ok_iff.mp readOk with ⟨others, othersRead, rfl⟩
          rcases List.mem_cons.mp member with rfl | later
          · intro number same
            rw [same] at isFirst
            have first := represented value List.mem_cons_self
            rw [tree_of_float isFirst] at first
            exact (Tree.represented_float_iff number).mp first
          · exact ih othersRead (fun tree among => represented tree (List.mem_cons_of_mem _ among))
              later

end Literal

namespace Schema

/-- Every floating-point number in a schema has the representation of its format. -/
inductive Represented : Schema -> Prop
  | object {fields : List (String × Schema)} {required : List String}
      (parts : forall field, field ∈ fields -> Represented field.2) :
      Represented (.object fields required)
  | array {element : Schema} (part : Represented element) : Represented (.array element)
  | primitive {kind : PrimitiveKind} {format : Option String} {constraints : List (String × Tree)}
      (values : forall constraint, constraint ∈ constraints -> constraint.2.Represented) :
      Represented (.primitive kind format constraints)
  | enum {values : List Literal} (literals : forall literal, literal ∈ values ->
      literal.Represented) : Represented (.enum values)
  | ref {name : String} : Represented (.ref name)

/-- No declared type is an enumeration. -/
theorem formOfType_ne_enumeration (type : Tree) (hasProperties : Bool) (values : Tree) :
    formOfType type hasProperties ≠ .enumeration values := by
  unfold formOfType
  repeat' split
  all_goals exact nofun

/-- The literals of an enumeration stand under a key of their own. -/
theorem lookup?_of_enumeration {entries : List (Tree × Tree)} {values : Tree}
    (recognised : form entries = .enumeration values) :
    Tree.lookup? "enum" entries = some values := by
  unfold form at recognised
  split at recognised
  · cases recognised
  · split at recognised
    · cases recognised
    · split at recognised
      · next found =>
          cases recognised
          exact found
      · exact absurd recognised (formOfType_ne_enumeration _ _ _)

theorem represented_cases :
    ReadingCases fun node schema => node.Represented -> schema.Represented where
  reference _ _ _ _ _ _ _ := .ref
  enumeration entries label values valuesLabel literals recognised literalsRead represented := by
    refine .enum ?_
    intro literal member
    have within : (Tree.map entries label).Holds (.list values valuesLabel) :=
      Tree.Holds.root.lookup (lookup?_of_enumeration recognised)
    refine Literal.represented_of_readLiterals literalsRead ?_ literal
      (Literal.mem_of_mem_distinct member)
    exact fun value among => represented.of_holds (within.item among)
  object entries label properties required fields _ parts fieldsOf represented := by
    refine .object ?_
    intro field member
    rcases Outcome.exists_left_of_forall₂ fieldsOf (Keyed.mem_of_mem_ofList member) with
      ⟨property, propertyMember, fieldOf⟩
    exact fieldOf.holds (represented.of_holds (holds_property parts propertyMember label))
  array entries label item element _ found _ ofElement represented :=
    .array (ofElement (represented.of_holds (Tree.Holds.root.lookup found)))
  primitive entries label kind format _ _ represented := by
    refine .primitive ?_
    intro constraint member
    rcases List.mem_map.mp member with ⟨entry, kept, rfl⟩
    exact represented.of_holds (.entry .root (List.mem_of_mem_filter kept))

end Schema

namespace TypeExpr

/-- Every floating-point number in a type has the representation of its format. -/
inductive Represented : TypeExpr -> Prop
  | primitive {scalar : Primitive} (refinements : forall refinement,
      refinement ∈ scalar.refinements -> refinement.Represented) :
      Represented (.primitive scalar)
  | array {element : TypeExpr} (part : Represented element) : Represented (.array element)
  | enum {values : List Literal} (literals : forall literal, literal ∈ values ->
      literal.Represented) : Represented (.enum values)
  | ref {name : String} : Represented (.ref name)
  | record {fields : List (Field TypeExpr)}
      (parts : forall field, field ∈ fields -> Represented field.type) :
      Represented (.record fields)

theorem represented_cases (components : List String) :
    LoweringCases components fun _ schema type => schema.Represented -> type.Represented where
  record properties required fields fieldsOf := by
    intro represented
    cases represented with
    | object parts =>
        refine .record ?_
        intro field member
        rcases Outcome.exists_left_of_forall₂ fieldsOf member with ⟨property, declared, fieldOf⟩
        exact fieldOf.holds (parts property declared)
  array position element type ih := by
    intro represented
    cases represented with
    | array part => exact .array (ih part)
  primitive position kind format constraints scalar built := by
    intro represented
    cases represented with
    | primitive values => exact .primitive (Primitive.represented_of_constraints built values)
  enum position values _ := by
    intro represented
    cases represented with
    | enum literals => exact .enum literals
  ref position name _ := fun _ => .ref

/-- The numbers of a type are those of the tree it was read from. -/
theorem represented_of_readInside {tree : Tree} {components : List String} {position : Position}
    {schema : Schema} {type : TypeExpr} (represented : tree.Represented)
    (inside : Schema.ReadInside tree schema)
    (lowered : ofSchema components position schema = .ok type) : type.Represented := by
  rcases inside with ⟨node, within, readOk⟩
  have schemaRepresented := Schema.represented_cases.of_read readOk (represented.of_holds within)
  exact (represented_cases components).of_lowered position schema type lowered schemaRepresented

theorem hereditary_represented {components : Components}
    (represented : forall component, component ∈ components -> component.2.Represented) :
    components.Hereditary Represented where
  element element holds := by
    cases holds with
    | array part => exact part
  field fields field holds member := by
    cases holds with
    | record parts => exact parts field member
  target name target _ found := represented (name, target) (Keyed.mem_of_lookup found)

end TypeExpr
end RouteIR
