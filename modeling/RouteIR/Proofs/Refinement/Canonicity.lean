import RouteIR.Proofs.Refinement.NormalForm

namespace RouteIR
namespace Refinement

/-!
# The normal form is canonical

A constraint asks for a refinement of one kind, in either of its two forms, or for none.  The
constraints that ask for none do not matter, and neither does the order of the others.  A
normal form has one refinement of each kind that is asked for, in the canonical order and
with the value that was given, so it is its own normal form; and where a kind is asked for
twice there is none.
-/

namespace Constraint

/-- The kind of refinement that a constraint asks for.  A key that is no kind asks for none. -/
def kind? : Constraint -> Option RefinementKind
  | declared key _ => RefinementKind.ofText? key
  | made refinement => some refinement.kind

/-- The value that a constraint gives to its refinement. -/
def value : Constraint -> Tree
  | declared _ value => value
  | made refinement => refinement.valueTree

/-- A refinement of the kind and with the value that a constraint asks for. -/
structure Grants (constraint : Constraint) (refinement : Refinement) : Prop where
  kind : constraint.kind? = some refinement.kind
  value : refinement.valueTree = constraint.value

end Constraint

/-- The kinds that constraints ask for, in order, each as often as it is asked for. -/
def askedKinds (constraints : List Constraint) : List RefinementKind :=
  constraints.filterMap Constraint.kind?

/-! ## Single constraints -/

theorem tree_of_lengthOf {kind : RefinementKind} {tree : Tree} {length : Int}
    (read : lengthOf kind tree = .ok length) : Tree.int length = tree := by
  unfold lengthOf at read
  split at read
  · split at read
    · cases read
    · cases read
      rfl
  · cases read

theorem tree_of_boundOf {kind : RefinementKind} {tree : Tree} {bound : Number}
    (read : boundOf kind tree = .ok bound) : bound.toTree = tree := by
  unfold boundOf at read
  split at read <;> cases read <;> rfl

/-- What is built has the kind and the value it is built from. -/
theorem kind_and_value_of_build {kind : RefinementKind} {tree : Tree} {refinement : Refinement}
    (built : build kind tree = .ok refinement) :
    refinement.kind = kind ∧ refinement.valueTree = tree := by
  cases kind with
  | minLength | maxLength =>
      rcases Outcome.map_eq_ok_iff.mp built with ⟨length, read, rfl⟩
      exact ⟨rfl, tree_of_lengthOf read⟩
  | minimum | maximum =>
      rcases Outcome.map_eq_ok_iff.mp built with ⟨bound, read, rfl⟩
      exact ⟨rfl, tree_of_boundOf read⟩
  | pattern =>
      unfold build at built
      dsimp only at built
      split at built
      · cases built
        exact ⟨rfl, rfl⟩
      · cases built

theorem grants_of_asked {constraint : Constraint} {refinement : Refinement}
    (asked : ofConstraint constraint = .ok (some refinement)) : constraint.Grants refinement := by
  cases constraint with
  | made other =>
      cases asked
      exact ⟨rfl, rfl⟩
  | declared key tree =>
      rw [ofConstraint] at asked
      split at asked
      · cases asked
      · next kind named =>
          rcases Outcome.map_eq_ok_iff.mp asked with ⟨_, built, same⟩
          cases same
          rcases kind_and_value_of_build built with ⟨sameKind, sameValue⟩
          exact ⟨named.trans (congrArg some sameKind.symm), sameValue⟩

/-- A constraint that asks for no refinement is answered with none. -/
theorem ofConstraint_of_silent {constraint : Constraint} (silent : constraint.kind? = none) :
    ofConstraint constraint = .ok none := by
  cases constraint with
  | made refinement => cases silent
  | declared key tree =>
      have unnamed : RefinementKind.ofText? key = none := silent
      rw [ofConstraint, unnamed]

theorem kind?_of_asked {constraint : Constraint} {answer : Option Refinement}
    (asked : ofConstraint constraint = .ok answer) : constraint.kind? = answer.map kind := by
  cases answer with
  | some refinement => exact (grants_of_asked asked).kind
  | none =>
      cases constraint with
      | made refinement => cases asked
      | declared key tree =>
          rw [ofConstraint] at asked
          split at asked
          · next unnamed => exact unnamed
          · rcases Outcome.map_eq_ok_iff.mp asked with ⟨_, _, impossible⟩
            cases impossible

/-! ## Lists of constraints -/

/-- The answers to constraints have the kinds that the constraints ask for. -/
theorem askedKinds_of_asked {constraints : List Constraint} {answers : List (Option Refinement)}
    (asked : Asked constraints answers) :
    askedKinds constraints = (answers.filterMap id).map kind := by
  rw [askedKinds, List.map_filterMap]
  induction asked with
  | nil => rfl
  | @cons constraint answer _ _ first _ ih =>
      rw [List.filterMap_cons, List.filterMap_cons, kind?_of_asked first, ih]
      cases answer <;> rfl

/-- Constraints that ask for nothing are passed over. -/
theorem collect_filter (found : List Refinement) (constraints : List Constraint) :
    collect found (constraints.filter (·.kind?.isSome)) = collect found constraints := by
  induction constraints generalizing found with
  | nil => rfl
  | cons constraint rest ih =>
      cases asks : constraint.kind? with
      | none =>
          rw [List.filter_cons_of_neg (by simp [asks]), ih, collect, ofConstraint_of_silent asks]
          rfl
      | some kind =>
          rw [List.filter_cons_of_pos (by simp [asks]), collect, collect]
          simp only [ih]

theorem normalForm_filter (constraints : List Constraint) :
    normalForm (constraints.filter (·.kind?.isSome)) = normalForm constraints := by
  rw [normalForm, normalForm, collect_filter]

/-! ## Canonical order -/

theorem map_kind_find? (wanted : RefinementKind) (refinements : List Refinement) :
    (find? wanted refinements).map kind = Option.guard (· ∈ refinements.map kind) wanted := by
  cases found : find? wanted refinements with
  | none =>
      have absent : wanted ∉ refinements.map kind := Keyed.find?_key_eq_none_iff.mp found
      simp [Option.guard, absent]
  | some refinement =>
      have known : wanted ∈ refinements.map kind :=
        List.mem_map.mpr ⟨refinement, mem_of_find? found, kind_of_find? found⟩
      simp [Option.guard, known, kind_of_find? found]

/-- In canonical order there is one refinement of each kind that there was. -/
theorem kinds_ordered (refinements : List Refinement) :
    (ordered refinements).map kind =
      RefinementKind.all.filter (· ∈ refinements.map kind) := by
  rw [ordered, List.map_filterMap]
  simp only [map_kind_find?]
  exact congrFun List.filterMap_eq_filter RefinementKind.all

theorem nodup_kinds_ordered (refinements : List Refinement) :
    ((ordered refinements).map kind).Nodup := by
  rw [kinds_ordered]
  exact List.Nodup.filter _ (by decide)

/-- Where no kind occurs twice, the canonical order holds the same refinements. -/
theorem ordered_perm {refinements : List Refinement} (distinct : (refinements.map kind).Nodup) :
    (ordered refinements).Perm refinements :=
  (List.perm_ext_iff_of_nodup (nodup_kinds_ordered refinements).of_map distinct.of_map).mpr
    (mem_ordered_iff distinct)

/-- A normal form, taken for constraints, is its own normal form. -/
theorem normalForm_made {constraints : List Constraint} {result : List Refinement}
    (normal : normalForm constraints = .ok result) :
    normalForm (result.map .made) = .ok result := by
  rcases (normalForm_eq_ok_iff constraints result).mp normal with
    ⟨answers, _, distinct, lengths, bounds, rfl⟩
  have sameFound (kind : RefinementKind) :
      find? kind (ordered (answers.filterMap id)) = find? kind (answers.filterMap id) :=
    find?_perm (ordered_perm distinct) (nodup_kinds_ordered _) kind
  have asked : Asked ((ordered (answers.filterMap id)).map .made)
      ((ordered (answers.filterMap id)).map some) := by
    rw [Asked, List.forall₂_map_left_iff, List.forall₂_map_right_iff, List.forall₂_same]
    exact fun _ _ => rfl
  have answered : ((ordered (answers.filterMap id)).map some).filterMap id =
      ordered (answers.filterMap id) := by
    rw [List.filterMap_map, Function.id_comp, List.filterMap_some]
  refine (normalForm_eq_ok_iff _ _).mpr ⟨_, asked, ?_⟩
  rw [answered]
  refine ⟨nodup_kinds_ordered _, ?_, ?_, ?_⟩
  · rwa [checkBounds, sameFound, sameFound]
  · rwa [checkBounds, sameFound, sameFound]
  · rw [ordered.eq_def (ordered _)]
    simp only [sameFound]
    rfl

/-- A normal form has the kinds that are asked for, each once, in the canonical order. -/
theorem kinds_of_normalForm {constraints : List Constraint} {result : List Refinement}
    (normal : normalForm constraints = .ok result) :
    result.map kind = RefinementKind.all.filter (· ∈ askedKinds constraints) := by
  rcases (normalForm_eq_ok_iff constraints result).mp normal with ⟨answers, asked, _, _, _, rfl⟩
  rw [kinds_ordered, askedKinds_of_asked asked]

/-- Every constraint that asks for a refinement is granted one. -/
theorem exists_granted {constraints : List Constraint} {result : List Refinement}
    (normal : normalForm constraints = .ok result) {constraint : Constraint}
    (member : constraint ∈ constraints) (asks : constraint.kind? ≠ none) :
    Exists fun refinement => refinement ∈ result ∧ constraint.Grants refinement := by
  rcases (normalForm_eq_ok_iff constraints result).mp normal with ⟨answers, asked, _⟩
  rcases Outcome.exists_right_of_forall₂ asked member with ⟨answer, _, answered⟩
  cases answer with
  | none => exact absurd (kind?_of_asked answered) asks
  | some refinement =>
      exact ⟨refinement, (mem_normalForm_iff normal refinement).mpr ⟨_, member, answered⟩,
        grants_of_asked answered⟩

/-- Where a kind is asked for twice there is no normal form. -/
theorem exists_error_of_repeated {constraints : List Constraint}
    (repeated : ¬ (askedKinds constraints).Nodup) :
    Exists fun rule => normalForm constraints = .error rule := by
  cases outcome : normalForm constraints with
  | error rule => exact ⟨rule, rfl⟩
  | ok result =>
      rcases (normalForm_eq_ok_iff constraints result).mp outcome with ⟨answers, asked, distinct, _⟩
      rw [← askedKinds_of_asked asked] at distinct
      exact absurd distinct repeated

/-- The normal form depends on the constraints that ask for something, in whatever order, and
on nothing else. -/
theorem normalForm_canonical (constraints : List Constraint) :
    (forall others, constraints.Perm others -> forall result,
      normalForm constraints = .ok result ↔ normalForm others = .ok result) ∧
    (forall others,
      others.filter (·.kind?.isSome) = constraints.filter (·.kind?.isSome) ->
      normalForm others = normalForm constraints) ∧
    (forall result, normalForm constraints = .ok result ->
      normalForm (result.map .made) = .ok result ∧
      result.map kind = RefinementKind.all.filter (· ∈ askedKinds constraints) ∧
      forall constraint, constraint ∈ constraints -> constraint.kind? ≠ none ->
        Exists fun refinement => refinement ∈ result ∧ constraint.Grants refinement) ∧
    (¬ (askedKinds constraints).Nodup ->
      Exists fun rule => normalForm constraints = .error rule) := by
  refine ⟨?_, ?_, ?_, exists_error_of_repeated⟩
  · intro others order result
    exact (normalForm_perm order).ok_iff
  · intro others same
    rw [← normalForm_filter others, same, normalForm_filter]
  · intro result normal
    exact ⟨normalForm_made normal, kinds_of_normalForm normal, fun _ => exists_granted normal⟩

/-- Declared constraints with one that is made already and a key that is no kind. -/
def mixedConstraints : List Constraint :=
  [.declared "pattern" (.str "^[a-z]+$"), .declared "description" (.str "a short name"),
    .made (.maxLength 8), .declared "minLength" (.int 2)]

theorem normalForm_canonical_of_mixed :
    let result := [minLength 2, maxLength 8, pattern "^[a-z]+$"]
    normalForm mixedConstraints = .ok result ∧
      normalForm mixedConstraints.reverse = .ok result ∧
      normalForm (mixedConstraints.filter (·.kind?.isSome)) = .ok result ∧
      normalForm (result.map .made) = .ok result ∧
      Exists fun rule => normalForm (.made (minLength 2) :: mixedConstraints) = .error rule := by
  have accepted : Exists fun result => normalForm mixedConstraints = .ok result :=
    Outcome.exists_of_isOk (by decide +kernel)
  rcases accepted with ⟨result, normal⟩
  have same : result = [minLength 2, maxLength 8, pattern "^[a-z]+$"] :=
    Outcome.part_eq_of_computed normal id (by decide +kernel)
  subst same
  rcases normalForm_canonical mixedConstraints with ⟨order, silent, kept, _⟩
  refine ⟨normal, ?_, ?_, (kept _ normal).1, ?_⟩
  · exact (order _ mixedConstraints.reverse_perm.symm _).mp normal
  · exact (silent _ (by rw [List.filter_filter, funext fun _ => Bool.and_self _])).trans normal
  · exact (normalForm_canonical (.made (minLength 2) :: mixedConstraints)).2.2.2 (by decide)

end Refinement
end RouteIR
