import RouteIR.Proofs.Keyed
import RouteIR.Proofs.Outcome.Agreement
import RouteIR.Refinement

namespace RouteIR
namespace Refinement

/-!
# The normal form of constraints

Constraints have a normal form when each of them is well-formed, no kind is asked for
twice, and no lower bound exceeds its upper bound.  The normal form then holds exactly the
refinements that are asked for, in the canonical order of their kinds.
-/

/-! ## Look-up by kind -/

theorem kind_of_find? {kind : RefinementKind} {refinements : List Refinement}
    {refinement : Refinement} (found : find? kind refinements = some refinement) :
    refinement.kind = kind :=
  Keyed.key_of_find? found

theorem mem_of_find? {kind : RefinementKind} {refinements : List Refinement}
    {refinement : Refinement} (found : find? kind refinements = some refinement) :
    refinement ∈ refinements :=
  List.mem_of_find?_eq_some found

/-- Where no kind occurs twice, a refinement is the one of its kind. -/
theorem find?_kind {refinements : List Refinement} (distinct : (refinements.map kind).Nodup)
    {refinement : Refinement} (member : refinement ∈ refinements) :
    find? refinement.kind refinements = some refinement :=
  Keyed.find?_key distinct member

/-- Where no kind occurs twice, a look-up by kind does not depend on the order. -/
theorem find?_perm {left right : List Refinement} (order : left.Perm right)
    (distinct : (left.map kind).Nodup) (kind : RefinementKind) :
    find? kind left = find? kind right := by
  have carried {some more : List Refinement} (same : some.Perm more)
      (unique : (more.map Refinement.kind).Nodup) {refinement : Refinement}
      (found : find? kind some = .some refinement) : find? kind more = .some refinement := by
    have other := find?_kind unique (same.mem_iff.mp (mem_of_find? found))
    rwa [kind_of_find? found] at other
  have distinctRight : (right.map Refinement.kind).Nodup :=
    (order.map Refinement.kind).nodup_iff.mp distinct
  apply Option.ext
  intro refinement
  exact ⟨carried order distinctRight, carried order.symm distinct⟩

/-! ## Collecting -/

/-- What constraints ask for, one answer a constraint. -/
def Asked (constraints : List Constraint) (answers : List (Option Refinement)) : Prop :=
  List.Forall₂ (fun constraint answer => ofConstraint constraint = .ok answer) constraints answers

/-- The kinds stay distinct with one more refinement just when its kind is not yet taken. -/
theorem nodup_extended_iff {found : List Refinement} (distinct : (found.map kind).Nodup)
    (refinement : Refinement) :
    ((found ++ [refinement]).map kind).Nodup ↔
      ¬ found.any (·.kind = refinement.kind) = true := by
  have separate : (found.map kind).Disjoint [refinement.kind] ↔
      refinement.kind ∉ found.map kind := List.disjoint_singleton
  rw [List.map_append, List.map_singleton, List.nodup_append', and_iff_right distinct,
    and_iff_right (List.nodup_singleton _), separate, List.any_eq_true]
  simp only [List.mem_map, decide_eq_true_eq]

/-- Collecting succeeds when every constraint is well-formed and no kind comes twice. -/
theorem collect_eq_ok_iff {found : List Refinement} (distinct : (found.map kind).Nodup)
    (constraints : List Constraint) (result : List Refinement) :
    collect found constraints = .ok result ↔ Exists fun answers =>
      Asked constraints answers ∧ result = found ++ answers.filterMap id ∧
        (result.map kind).Nodup := by
  induction constraints generalizing found with
  | nil =>
      simp only [collect, Asked, List.forall₂_nil_left_iff, Except.ok.injEq]
      constructor
      · rintro rfl
        exact ⟨[], rfl, by simp, distinct⟩
      · rintro ⟨answers, rfl, rfl, _⟩
        simp
  | cons constraint rest ih =>
      rw [collect, Outcome.bind_eq_ok_iff]
      simp only [Asked, List.forall₂_cons_left_iff]
      constructor
      · rintro ⟨answer, asked, collected⟩
        cases answer with
        | none =>
            rcases (ih distinct).mp collected with ⟨answers, others, same, resultDistinct⟩
            exact ⟨none :: answers, ⟨none, answers, asked, others, rfl⟩, same, resultDistinct⟩
        | some refinement =>
            dsimp only at collected
            split at collected
            · cases collected
            · next fresh =>
                have extended := (nodup_extended_iff distinct refinement).mpr fresh
                rcases (ih extended).mp collected with ⟨answers, others, same, resultDistinct⟩
                refine ⟨some refinement :: answers, ⟨_, answers, asked, others, rfl⟩, ?_,
                  resultDistinct⟩
                rw [same, List.append_assoc]
                rfl
      · rintro ⟨answers, ⟨answer, others, asked, othersAsked, rfl⟩, same, resultDistinct⟩
        refine ⟨answer, asked, ?_⟩
        cases answer with
        | none => exact (ih distinct).mpr ⟨others, othersAsked, same, resultDistinct⟩
        | some refinement =>
            have joined : result = (found ++ [refinement]) ++ others.filterMap id := by
              rw [same, List.append_assoc]
              rfl
            have extended : ((found ++ [refinement]).map kind).Nodup := by
              rw [joined, List.map_append] at resultDistinct
              exact List.Nodup.of_append_left resultDistinct
            dsimp only
            rw [if_neg ((nodup_extended_iff distinct refinement).mp extended)]
            exact (ih extended).mpr ⟨others, othersAsked, joined, resultDistinct⟩

theorem checkBounds_eq_ok_iff (low high : RefinementKind) (refinements : List Refinement) :
    checkBounds low high refinements = .ok () ↔ forall lower upper,
      (find? low refinements).bind number? = some lower ->
      (find? high refinements).bind number? = some upper -> lower.exceeds upper = false := by
  rw [checkBounds]
  cases (find? low refinements).bind number? with
  | none => simp
  | some lower =>
      cases (find? high refinements).bind number? with
      | none => simp
      | some upper =>
          dsimp only
          cases crossed : lower.exceeds upper <;> simp [crossed]

/-! ## Order -/

theorem mem_ordered_iff {refinements : List Refinement} (distinct : (refinements.map kind).Nodup)
    (refinement : Refinement) : refinement ∈ ordered refinements ↔ refinement ∈ refinements := by
  rw [ordered, List.mem_filterMap]
  constructor
  · rintro ⟨kind, _, found⟩
    exact mem_of_find? found
  · intro member
    refine ⟨refinement.kind, ?_, find?_kind distinct member⟩
    cases refinement.kind <;> decide

/-- Kinds rise along the canonical order, so none occurs twice in it. -/
theorem ordered_rising (refinements : List Refinement) :
    (ordered refinements).Pairwise fun first second => first.kind.rank < second.kind.rank := by
  have rising : RefinementKind.all.Pairwise fun first second => first.rank < second.rank := by
    decide
  refine List.Pairwise.filterMap _ ?_ rising
  intro first second less one oneFound other otherFound
  rw [kind_of_find? oneFound, kind_of_find? otherFound]
  exact less

/-! ## The normal form -/

theorem nodup_kinds_nil : (([] : List Refinement).map kind).Nodup :=
  List.nodup_nil

theorem normalForm_eq_ok_iff (constraints : List Constraint) (result : List Refinement) :
    normalForm constraints = .ok result ↔ Exists fun answers =>
      Asked constraints answers ∧ ((answers.filterMap id).map kind).Nodup ∧
      checkBounds .minLength .maxLength (answers.filterMap id) = .ok () ∧
      checkBounds .minimum .maximum (answers.filterMap id) = .ok () ∧
      result = ordered (answers.filterMap id) := by
  rw [normalForm]
  simp only [Outcome.bind_eq_ok_iff, Outcome.pure_eq_ok_iff]
  constructor
  · rintro ⟨found, collected, ⟨⟩, lengths, ⟨⟩, bounds, same⟩
    rcases (collect_eq_ok_iff nodup_kinds_nil constraints found).mp collected with
      ⟨answers, asked, rfl, distinct⟩
    exact ⟨answers, asked, distinct, lengths, bounds, same.symm⟩
  · rintro ⟨answers, asked, distinct, lengths, bounds, same⟩
    refine ⟨answers.filterMap id, ?_, (), lengths, (), bounds, same.symm⟩
    exact (collect_eq_ok_iff nodup_kinds_nil constraints _).mpr ⟨answers, asked, rfl, distinct⟩

/-- Constraints have a normal form in every order or in none, and it is the same. -/
theorem normalForm_perm {left right : List Constraint} (order : left.Perm right) :
    Outcome.Agree Eq (normalForm left) (normalForm right) := by
  have carried {some more : List Constraint} (same : some.Perm more) {result : List Refinement}
      (normal : normalForm some = .ok result) : normalForm more = .ok result := by
    rcases (normalForm_eq_ok_iff some result).mp normal with
      ⟨answers, asked, distinct, lengths, bounds, rfl⟩
    rcases Outcome.forall₂_perm asked same with ⟨changed, changedAsked, sameAnswers⟩
    have sameAsked : (answers.filterMap id).Perm (changed.filterMap id) := sameAnswers.filterMap id
    have sameFound := find?_perm sameAsked distinct
    refine (normalForm_eq_ok_iff more _).mpr ⟨changed, changedAsked, ?_, ?_, ?_, ?_⟩
    · exact (sameAsked.map kind).nodup_iff.mp distinct
    · rwa [checkBounds, ← sameFound, ← sameFound]
    · rwa [checkBounds, ← sameFound, ← sameFound]
    · simp only [ordered, sameFound]
  apply Outcome.Agree.of_succeeds_iff
  · exact ⟨fun ⟨_, normal⟩ => ⟨_, carried order normal⟩,
      fun ⟨_, normal⟩ => ⟨_, carried order.symm normal⟩⟩
  · intro one other normal otherNormal
    rw [carried order normal] at otherNormal
    exact Except.ok.inj otherNormal

/-- The normal form holds what the constraints ask for, and nothing else. -/
theorem mem_normalForm_iff {constraints : List Constraint} {result : List Refinement}
    (normal : normalForm constraints = .ok result) (refinement : Refinement) :
    refinement ∈ result ↔ Exists fun constraint =>
      constraint ∈ constraints ∧ ofConstraint constraint = .ok (some refinement) := by
  rcases (normalForm_eq_ok_iff constraints result).mp normal with
    ⟨answers, asked, distinct, _, _, rfl⟩
  rw [mem_ordered_iff distinct, List.mem_filterMap]
  constructor
  · rintro ⟨answer, member, rfl⟩
    exact Outcome.exists_left_of_forall₂ asked member
  · rintro ⟨constraint, member, answered⟩
    rcases Outcome.exists_left_of_forall₂ asked.flip member with ⟨answer, answerMember, same⟩
    rw [answered] at same
    cases same
    exact ⟨some refinement, answerMember, rfl⟩

/-- Refinements in canonical order that do not contradict one another. -/
structure Canonical (refinements : List Refinement) : Prop where
  /-- Kinds rise, so that none occurs twice. -/
  rising : refinements.Pairwise fun first second => first.kind.rank < second.kind.rank
  natural : forall value, minLength value ∈ refinements ∨ maxLength value ∈ refinements -> 0 ≤ value
  lengths : forall low high, minLength low ∈ refinements -> maxLength high ∈ refinements ->
    low ≤ high
  bounds : forall low high, minimum low ∈ refinements -> maximum high ∈ refinements ->
    low.exceeds high = false

/-- Integers are compared exactly. -/
theorem exceeds_int_eq_false_iff (low high : Int) :
    (Number.int low).exceeds (.int high) = false ↔ low ≤ high := by
  have positive : 0 < (Binary64.unitsPerOne : Int) := by decide +kernel
  simp only [Number.exceeds, Number.orderKey]
  generalize (Binary64.unitsPerOne : Int) = units at positive
  simp [Int.mul_lt_mul_right positive]

theorem natural_of_build {kind : RefinementKind} {tree : Tree} {refinement : Refinement}
    (built : build kind tree = .ok refinement) {value : Int}
    (length : refinement = minLength value ∨ refinement = maxLength value) : 0 ≤ value := by
  have natural {kind : RefinementKind} {found : Int} (read : lengthOf kind tree = .ok found) :
      0 ≤ found := by
    unfold lengthOf at read
    split at read
    · split at read
      · cases read
      · next nonnegative =>
          cases read
          omega
    · cases read
  cases kind with
  | minLength =>
      rcases Outcome.map_eq_ok_iff.mp built with ⟨found, read, rfl⟩
      rcases length with same | same <;> cases same
      exact natural read
  | maxLength =>
      rcases Outcome.map_eq_ok_iff.mp built with ⟨found, read, rfl⟩
      rcases length with same | same <;> cases same
      exact natural read
  | minimum =>
      rcases Outcome.map_eq_ok_iff.mp built with ⟨found, _, rfl⟩
      rcases length with same | same <;> cases same
  | maximum =>
      rcases Outcome.map_eq_ok_iff.mp built with ⟨found, _, rfl⟩
      rcases length with same | same <;> cases same
  | pattern =>
      unfold build at built
      dsimp only at built
      split at built
      · cases built
        rcases length with same | same <;> cases same
      · cases built

/-- The normal form of declared constraints is canonical. -/
theorem canonical_of_normalForm {declared : List (String × Tree)} {result : List Refinement}
    (normal : normalForm (declared.map fun entry => .declared entry.1 entry.2) = .ok result) :
    Canonical result := by
  have natural {refinement : Refinement} (member : refinement ∈ result) {value : Int}
      (length : refinement = minLength value ∨ refinement = maxLength value) : 0 ≤ value := by
    rcases (mem_normalForm_iff normal refinement).mp member with ⟨constraint, declaredMember, asked⟩
    rcases List.mem_map.mp declaredMember with ⟨⟨key, tree⟩, _, rfl⟩
    rw [ofConstraint] at asked
    split at asked
    · cases asked
    · rcases Outcome.map_eq_ok_iff.mp asked with ⟨_, built, same⟩
      cases same
      exact natural_of_build built length
  rcases (normalForm_eq_ok_iff _ result).mp normal with ⟨answers, _, distinct, lengths, bounds, rfl⟩
  have found {refinement : Refinement} (member : refinement ∈ ordered (answers.filterMap id)) :
      find? refinement.kind (answers.filterMap id) = some refinement :=
    find?_kind distinct ((mem_ordered_iff distinct refinement).mp member)
  rw [checkBounds_eq_ok_iff] at lengths bounds
  refine ⟨ordered_rising _, ?_, ?_, ?_⟩
  · rintro value (member | member)
    · exact natural member (Or.inl rfl)
    · exact natural member (Or.inr rfl)
  · intro low high lowMember highMember
    rw [← exceeds_int_eq_false_iff]
    have lowFound : find? .minLength _ = _ := found lowMember
    have highFound : find? .maxLength _ = _ := found highMember
    apply lengths
    · rw [lowFound]
      rfl
    · rw [highFound]
      rfl
  · intro low high lowMember highMember
    have lowFound : find? .minimum _ = _ := found lowMember
    have highFound : find? .maximum _ = _ := found highMember
    apply bounds
    · rw [lowFound]
      rfl
    · rw [highFound]
      rfl

end Refinement
end RouteIR
