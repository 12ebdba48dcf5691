import Mathlib.Data.List.Forall2
import Mathlib.Data.List.Perm.Basic

namespace RouteIR

/-!
# How a computation ends

The stages of a translation end with a value or with the first failure.  These lemmas
say when a step, a relabelling of failures, or a pass over a list ends in either way,
so that no proof has to open the sequencing itself.  A pass over a list fails exactly
when one item fails and all items before it do not.
-/

namespace Outcome

universe u

variable {ε δ α β : Type u}

theorem bind_eq_ok_iff {outcome : Except ε α} {next : α -> Except ε β} {value : β} :
    (outcome >>= next) = .ok value ↔
      Exists fun middle => outcome = .ok middle ∧ next middle = .ok value := by
  cases outcome with
  | error failure => simp [bind, Except.bind]
  | ok middle => simp [bind, Except.bind]

theorem bind_eq_error_iff {outcome : Except ε α} {next : α -> Except ε β} {failure : ε} :
    (outcome >>= next) = .error failure ↔
      outcome = .error failure ∨
        Exists fun middle => outcome = .ok middle ∧ next middle = .error failure := by
  cases outcome with
  | error first => simp [bind, Except.bind]
  | ok middle => simp [bind, Except.bind]

theorem pure_eq_ok_iff {first second : α} :
    (pure first : Except ε α) = .ok second ↔ first = second := by
  simp [pure, Except.pure]

theorem pure_ne_error {value : α} {failure : ε} :
    (pure value : Except ε α) ≠ .error failure := by
  simp [pure, Except.pure]

theorem map_eq_ok_iff {outcome : Except ε α} {change : α -> β} {value : β} :
    outcome.map change = .ok value ↔
      Exists fun old => outcome = .ok old ∧ change old = value := by
  cases outcome <;> simp [Except.map]

theorem map_eq_error_iff {outcome : Except ε α} {change : α -> β} {failure : ε} :
    outcome.map change = .error failure ↔ outcome = .error failure := by
  cases outcome <;> simp [Except.map]

theorem mapError_eq_ok_iff {outcome : Except ε α} {relabel : ε -> δ} {value : α} :
    outcome.mapError relabel = .ok value ↔ outcome = .ok value := by
  cases outcome <;> simp [Except.mapError]

theorem mapError_eq_error_iff {outcome : Except ε α} {relabel : ε -> δ} {failure : δ} :
    outcome.mapError relabel = .error failure ↔
      Exists fun old => outcome = .error old ∧ relabel old = failure := by
  cases outcome <;> simp [Except.mapError]

theorem discard_eq_ok_iff {outcome : Except ε α} {value : PUnit} :
    discard outcome = .ok value ↔ Exists fun found => outcome = .ok found := by
  cases outcome <;> simp [discard, Functor.mapConst, Except.map]

/-- Whether an outcome is a value can be computed. -/
theorem exists_of_isOk {outcome : Except ε α} (isOk : outcome.isOk = true) :
    Exists fun value => outcome = .ok value := by
  cases outcome with
  | error failure => cases isOk
  | ok value => exact ⟨value, rfl⟩

/-- What is computed of an outcome is so of its value. -/
theorem part_eq_of_computed {outcome : Except ε α} {value : α} (isOk : outcome = .ok value)
    (part : α -> β) {found : β} (computed : outcome.toOption.map part = some found) :
    part value = found := by
  rw [isOk] at computed
  exact Option.some.inj computed

/-! ## Failures -/

/-- The failure that a computation ends with, if it fails. -/
def failure? : Except ε α -> Option ε
  | .ok _ => none
  | .error failure => some failure

@[simp] theorem failure?_ok (value : α) : failure? (.ok value : Except ε α) = none := rfl

@[simp] theorem failure?_error (failure : ε) :
    failure? (.error failure : Except ε α) = some failure := rfl

theorem failure?_eq_none_iff {outcome : Except ε α} :
    failure? outcome = none ↔ Exists fun value => outcome = .ok value := by
  cases outcome <;> simp [failure?]

theorem failure?_eq_some_iff {outcome : Except ε α} {failure : ε} :
    failure? outcome = some failure ↔ outcome = .error failure := by
  cases outcome <;> simp [failure?]

@[simp] theorem failure?_map (outcome : Except ε α) (change : α -> β) :
    failure? (outcome.map change) = failure? outcome := by
  cases outcome <;> rfl

@[simp] theorem failure?_mapError (outcome : Except ε α) (relabel : ε -> δ) :
    failure? (outcome.mapError relabel) = (failure? outcome).map relabel := by
  cases outcome <;> rfl

theorem failure?_bind_pure (outcome : Except ε α) (change : α -> β) :
    failure? (outcome >>= fun value => pure (change value)) = failure? outcome := by
  cases outcome <;> rfl

/-- Of two steps in sequence the first failure counts. -/
theorem failure?_bind {outcome : Except ε α} {next : α -> Except ε β} {later : Option ε}
    (follows : forall value, outcome = .ok value -> failure? (next value) = later) :
    failure? (outcome >>= next) = (failure? outcome).or later := by
  cases outcome with
  | ok value => exact follows value rfl
  | error failure => rfl

/-! ## Either end -/

/-- A computation ends with a value of one property, or with a failure of another. -/
def Ends (fine : α -> Prop) (borne : ε -> Prop) : Except ε α -> Prop
  | .ok value => fine value
  | .error failure => borne failure

section Either

variable {fine : α -> Prop} {other : β -> Prop} {borne : ε -> Prop}

theorem Ends.value {outcome : Except ε α} (ends : Ends fine borne outcome) {value : α}
    (succeeded : outcome = .ok value) : fine value := by
  rw [succeeded] at ends
  exact ends

theorem Ends.failure {outcome : Except ε α} (ends : Ends fine borne outcome) {failure : ε}
    (failed : outcome = .error failure) : borne failure := by
  rw [failed] at ends
  exact ends

theorem Ends.bind {outcome : Except ε α} {next : α -> Except ε β}
    (ends : Ends fine borne outcome)
    (follows : forall value, fine value -> Ends other borne (next value)) :
    Ends other borne (outcome >>= next) := by
  cases outcome with
  | ok value => exact follows value ends
  | error failure => exact ends

theorem Ends.map {outcome : Except ε α} {change : α -> β} (ends : Ends fine borne outcome)
    (kept : forall value, fine value -> other (change value)) :
    Ends other borne (outcome.map change) := by
  cases outcome with
  | ok value => exact kept value ends
  | error failure => exact ends

theorem Ends.mapError {outcome : Except ε α} {relabel : ε -> δ} {told : δ -> Prop}
    (ends : Ends fine borne outcome)
    (kept : forall failure, borne failure -> told (relabel failure)) :
    Ends fine told (outcome.mapError relabel) := by
  cases outcome with
  | ok value => exact ends
  | error failure => exact kept failure ends

/-- A pass ends well when each item does. -/
theorem ends_mapM {run : α -> Except ε β} {items : List α}
    (each : forall item, item ∈ items -> Ends other borne (run item)) :
    Ends (fun values => forall value, value ∈ values -> other value) borne (items.mapM run) := by
  induction items with
  | nil =>
      intro value member
      cases member
  | cons item rest ih =>
      rw [List.mapM_cons]
      apply (each item List.mem_cons_self).bind
      intro value isFine
      apply (ih fun later member => each later (List.mem_cons_of_mem _ member)).bind
      intro values areFine
      exact List.forall_mem_cons.mpr ⟨isFine, areFine⟩

/-- A computation that fails, if it does, with a failure of some property. -/
abbrev FailsAs (borne : ε -> Prop) (outcome : Except ε α) : Prop :=
  Ends (fun _ => True) borne outcome

theorem FailsAs.map {outcome : Except ε α} (fails : FailsAs borne outcome) (change : α -> β) :
    FailsAs borne (outcome.map change) :=
  Ends.map fails fun _ _ => trivial

theorem failsAs_mapM {run : α -> Except ε β} {items : List α}
    (each : forall item, item ∈ items -> FailsAs borne (run item)) :
    FailsAs borne (items.mapM run) := by
  have ends := ends_mapM each
  cases outcome : items.mapM run with
  | ok values => trivial
  | error failure => exact ends.failure outcome

end Either

/-! ## Passes over a list -/

/-- The first item that is not fine, and what is true of it. -/
def First (fine hit : α -> Prop) (items : List α) : Prop :=
  Exists fun before => Exists fun item => Exists fun after =>
    items = before ++ item :: after ∧ (forall earlier, earlier ∈ before -> fine earlier) ∧ hit item

theorem not_first_nil (fine hit : α -> Prop) : ¬ First fine hit [] := by
  rintro ⟨before, item, after, split, _⟩
  simp at split

theorem first_cons_iff (fine hit : α -> Prop) (item : α) (rest : List α) :
    First fine hit (item :: rest) ↔ hit item ∨ (fine item ∧ First fine hit rest) := by
  constructor
  · rintro ⟨before, found, after, split, earlier, isHit⟩
    cases before with
    | nil =>
        rcases List.cons.inj split with ⟨rfl, rfl⟩
        exact Or.inl isHit
    | cons first others =>
        rcases List.cons.inj split with ⟨rfl, rfl⟩
        refine Or.inr ⟨earlier item List.mem_cons_self, others, found, after, rfl, ?_, isHit⟩
        exact fun other member => earlier other (List.mem_cons_of_mem _ member)
  · rintro (isHit | ⟨isFine, before, found, after, rfl, earlier, isHit⟩)
    · exact ⟨[], item, rest, rfl, by simp, isHit⟩
    · refine ⟨item :: before, found, after, rfl, ?_, isHit⟩
      intro other member
      rcases List.mem_cons.mp member with rfl | member
      · exact isFine
      · exact earlier other member

theorem First.exists_hit {fine hit : α -> Prop} {items : List α} (first : First fine hit items) :
    Exists fun item => item ∈ items ∧ hit item := by
  rcases first with ⟨before, item, after, rfl, _, isHit⟩
  exact ⟨item, by simp, isHit⟩

/-- A search ends with what the first item that has anything has. -/
theorem findSome?_eq_some_iff {find : α -> Option β} {items : List α} {found : β} :
    items.findSome? find = some found ↔ First (find · = none) (find · = some found) items := by
  induction items with
  | nil => simp [not_first_nil]
  | cons item rest ih =>
      rw [first_cons_iff, ← ih, List.findSome?_cons]
      cases find item <;> simp

/-- Whether a computation succeeds, whatever its value. -/
def Succeeds (outcome : Except ε α) : Prop := Exists fun value => outcome = .ok value

/-- A pass succeeds when every item does, and its values stand in the order of the items. -/
theorem mapM_eq_ok_iff (run : α -> Except ε β) (items : List α) (values : List β) :
    items.mapM run = .ok values ↔
      List.Forall₂ (fun item value => run item = .ok value) items values := by
  induction items generalizing values with
  | nil => cases values <;> simp [pure_eq_ok_iff]
  | cons item rest ih =>
      rw [List.mapM_cons]
      simp only [bind_eq_ok_iff, pure_eq_ok_iff, ih, List.forall₂_cons_left_iff]
      constructor
      · rintro ⟨value, first, others, remaining, rfl⟩
        exact ⟨value, others, first, remaining, rfl⟩
      · rintro ⟨value, others, first, remaining, rfl⟩
        exact ⟨value, first, others, remaining, rfl⟩

/-- A pass fails with the failure of the first item that fails. -/
theorem mapM_eq_error_iff (run : α -> Except ε β) (items : List α) (failure : ε) :
    items.mapM run = .error failure ↔
      First (fun item => Succeeds (run item)) (fun item => run item = .error failure) items := by
  induction items with
  | nil => simp [pure_ne_error, not_first_nil]
  | cons item rest ih =>
      rw [List.mapM_cons, first_cons_iff]
      simp only [bind_eq_error_iff, pure_ne_error, ih, and_false, exists_false, or_false]
      constructor
      · rintro (failed | ⟨value, succeeded, failed⟩)
        · exact Or.inl failed
        · exact Or.inr ⟨⟨value, succeeded⟩, failed⟩
      · rintro (failed | ⟨⟨value, succeeded⟩, failed⟩)
        · exact Or.inl failed
        · exact Or.inr ⟨value, succeeded, failed⟩

/-- A pass ends with the first failure among its items. -/
theorem failure?_mapM (run : α -> Except ε β) (items : List α) :
    failure? (items.mapM run) = items.findSome? fun item => failure? (run item) := by
  induction items with
  | nil => rfl
  | cons item rest ih =>
      rw [List.mapM_cons, List.findSome?_cons, ← ih]
      cases run item with
      | error failure => rfl
      | ok value => cases rest.mapM run <;> rfl

/-- What stands in the right of two related lists has a partner in the left. -/
theorem exists_left_of_forall₂ {relation : α -> β -> Prop} {items : List α} {values : List β}
    (related : List.Forall₂ relation items values) {value : β} (member : value ∈ values) :
    Exists fun item => item ∈ items ∧ relation item value := by
  induction related with
  | nil => cases member
  | cons first _ ih =>
      rcases List.mem_cons.mp member with rfl | later
      · exact ⟨_, List.mem_cons_self, first⟩
      · rcases ih later with ⟨item, itemMember, holds⟩
        exact ⟨item, List.mem_cons_of_mem _ itemMember, holds⟩

/-- What stands in the left of two related lists has a partner in the right. -/
theorem exists_right_of_forall₂ {relation : α -> β -> Prop} {items : List α} {values : List β}
    (related : List.Forall₂ relation items values) {item : α} (member : item ∈ items) :
    Exists fun value => value ∈ values ∧ relation item value := by
  have flipped : List.Forall₂ (flip relation) values items := related.flip
  exact exists_left_of_forall₂ flipped member

/-- The right of two related lists cut at a value, and the left cut at its partner. -/
theorem split_of_forall₂ {relation : α -> β -> Prop} {items : List α} {before after : List β}
    {value : β} (related : List.Forall₂ relation items (before ++ value :: after)) :
    Exists fun first => Exists fun item => Exists fun last => items = first ++ item :: last ∧
      List.Forall₂ relation first before ∧ relation item value ∧
      List.Forall₂ relation last after := by
  induction before generalizing items with
  | nil =>
      cases related with
      | cons one rest => exact ⟨[], _, _, rfl, .nil, one, rest⟩
  | cons other before ih =>
      cases related with
      | cons one rest =>
          rcases ih rest with ⟨first, item, last, rfl, left, middle, right⟩
          exact ⟨_ :: first, item, last, rfl, .cons one left, middle, right⟩

/-- Two relations between lists, one after the other, relate the items place by place. -/
theorem forall₂_comp {γ : Type u} {first : α -> β -> Prop} {second : β -> γ -> Prop}
    {items : List α} {middle : List β} {values : List γ} (left : List.Forall₂ first items middle)
    (right : List.Forall₂ second middle values) :
    List.Forall₂ (fun item value => Exists fun between => first item between ∧ second between value)
      items values := by
  induction left generalizing values with
  | nil =>
      cases right
      exact .nil
  | cons one _ ih =>
      cases right with
      | cons other rest => exact .cons ⟨_, one, other⟩ (ih rest)

/-- Related lists are related by what their items are too. -/
theorem forall₂_and_mem {relation : α -> β -> Prop} {items : List α} {values : List β}
    (related : List.Forall₂ relation items values) :
    List.Forall₂ (fun item value => relation item value ∧ item ∈ items ∧ value ∈ values)
      items values := by
  induction related with
  | nil => exact .nil
  | cons one _ ih =>
      refine .cons ⟨one, List.mem_cons_self, List.mem_cons_self⟩ (ih.imp ?_)
      rintro item value ⟨holds, itemMember, valueMember⟩
      exact ⟨holds, List.mem_cons_of_mem _ itemMember, List.mem_cons_of_mem _ valueMember⟩

/-- What related items are reordered to is related to their partners, reordered too. -/
theorem forall₂_perm {relation : α -> β -> Prop} {items others : List α} {values : List β}
    (related : List.Forall₂ relation items values) (reordered : items.Perm others) :
    Exists fun changed => List.Forall₂ relation others changed ∧ values.Perm changed := by
  rcases List.perm_comp_forall₂ reordered.symm related with ⟨changed, relatedOthers, same⟩
  exact ⟨changed, relatedOthers, same.symm⟩

/-- Lists are equal under two functions that agree on related items. -/
theorem map_eq_map_of_forall₂ {γ : Type u} {relation : α -> β -> Prop} {items : List α}
    {values : List β} {left : α -> γ} {right : β -> γ}
    (related : List.Forall₂ relation items values)
    (agree : forall item value, relation item value -> left item = right value) :
    items.map left = values.map right := by
  rw [← List.forall₂_eq_eq_eq, List.forall₂_map_left_iff, List.forall₂_map_right_iff]
  exact related.imp agree

/-- A relation between two lists is weakened along the items of the left. -/
theorem forall₂_imp_of_mem {relation weaker : α -> β -> Prop} {items : List α} {values : List β}
    (related : List.Forall₂ relation items values)
    (weakens : forall item, item ∈ items -> forall value, relation item value ->
      weaker item value) :
    List.Forall₂ weaker items values := by
  induction related with
  | nil => exact .nil
  | cons first _ ih =>
      refine .cons (weakens _ List.mem_cons_self _ first) (ih ?_)
      exact fun item member => weakens item (List.mem_cons_of_mem _ member)

/-- Every value of a pass that succeeds comes from an item. -/
theorem exists_item_of_mapM {run : α -> Except ε β} {items : List α} {values : List β}
    (succeeded : items.mapM run = .ok values) {value : β} (member : value ∈ values) :
    Exists fun item => item ∈ items ∧ run item = .ok value :=
  exists_left_of_forall₂ ((mapM_eq_ok_iff run items values).mp succeeded) member

end Outcome
end RouteIR
