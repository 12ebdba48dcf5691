import RouteIR.Proofs.Outcome

namespace RouteIR
namespace Outcome

/-!
# Computations that end alike

Two computations agree when both end with a value, the two values being related, or both
fail, with whatever failures.  Agreement of the steps gives agreement of a sequence of them,
and of a pass over related lists.  A pass over the items of a list in another order succeeds
just when the first one does, although the failure that it meets first may be another one.
Where the failures are the same too, the two coincide.
-/

universe u

variable {ε δ α β γ ζ : Type u}

/-- Both computations end with related values, or both fail. -/
inductive Agree (related : α -> β -> Prop) : Except ε α -> Except δ β -> Prop
  | ok {left : α} {right : β} (values : related left right) : Agree related (.ok left) (.ok right)
  | error (first : ε) (second : δ) : Agree related (.error first) (.error second)

namespace Agree

variable {related : α -> β -> Prop} {left : Except ε α} {right : Except δ β}

theorem of_eq {one other : Except ε α} (same : one = other) : Agree Eq one other := by
  rw [same]
  cases other with
  | ok value => exact .ok rfl
  | error failure => exact .error failure failure

theorem refl {alike : α -> α -> Prop} (same : forall value, alike value value)
    (outcome : Except ε α) : Agree alike outcome outcome := by
  cases outcome with
  | ok value => exact .ok (same value)
  | error failure => exact .error failure failure

theorem mono {weaker : α -> β -> Prop} (agree : Agree related left right)
    (weakens : forall one other, related one other -> weaker one other) :
    Agree weaker left right := by
  cases agree with
  | ok values => exact .ok (weakens _ _ values)
  | error first second => exact .error first second

theorem succeeds_iff (agree : Agree related left right) : Succeeds left ↔ Succeeds right := by
  cases agree with
  | ok _ => exact iff_of_true ⟨_, rfl⟩ ⟨_, rfl⟩
  | error _ _ => exact iff_of_false nofun nofun

theorem values (agree : Agree related left right) {one : α} {other : β}
    (leftOk : left = .ok one) (rightOk : right = .ok other) : related one other := by
  cases agree with
  | ok values =>
      cases leftOk
      cases rightOk
      exact values
  | error _ _ => cases leftOk

/-- Computations that agree on equal values succeed with the same. -/
theorem ok_iff {right : Except δ α} (agree : Agree Eq left right) {value : α} :
    left = .ok value ↔ right = .ok value := by
  cases agree with
  | ok same => rw [same, Except.ok.injEq, Except.ok.injEq]
  | error first second => exact iff_of_false nofun nofun

/-- Agreement is known from what both computations succeed with. -/
theorem of_succeeds_iff (both : Succeeds left ↔ Succeeds right)
    (values : forall one other, left = .ok one -> right = .ok other -> related one other) :
    Agree related left right := by
  cases left with
  | ok one =>
      rcases both.mp ⟨one, rfl⟩ with ⟨other, rightOk⟩
      rw [rightOk]
      exact .ok (values one other rfl rightOk)
  | error first =>
      cases right with
      | ok other => exact absurd (both.mpr ⟨other, rfl⟩) nofun
      | error second => exact .error first second

/-- Related values are related as what the computations ended with. -/
theorem attach (agree : Agree related left right) :
    Agree (fun one other => related one other ∧ left = .ok one ∧ right = .ok other) left right := by
  cases agree with
  | ok values => exact .ok ⟨values, rfl, rfl⟩
  | error first second => exact .error first second

theorem map {further : γ -> ζ -> Prop} {change : α -> γ} {alter : β -> ζ}
    (agree : Agree related left right)
    (carries : forall one other, related one other -> further (change one) (alter other)) :
    Agree further (left.map change) (right.map alter) := by
  cases agree with
  | ok values => exact .ok (carries _ _ values)
  | error first second => exact .error first second

theorem mapError {φ ψ : Type u} {relabel : ε -> φ} {rename : δ -> ψ}
    (agree : Agree related left right) :
    Agree related (left.mapError relabel) (right.mapError rename) := by
  cases agree with
  | ok values => exact .ok values
  | error first second => exact .error (relabel first) (rename second)

theorem bind {further : γ -> ζ -> Prop} {next : α -> Except ε γ} {follow : β -> Except δ ζ}
    (agree : Agree related left right)
    (carries : forall one other, related one other -> Agree further (next one) (follow other)) :
    Agree further (left >>= next) (right >>= follow) := by
  cases agree with
  | ok values => exact carries _ _ values
  | error first second => exact .error first second

end Agree

/-! ## Passes over a list -/

/-- Passes over two lists agree when the items do, one by one. -/
theorem agree_mapM {related : γ -> ζ -> Prop} {run : α -> Except ε γ} {rerun : β -> Except δ ζ}
    {items : List α} {others : List β}
    (agree : List.Forall₂ (fun item other => Agree related (run item) (rerun other)) items others) :
    Agree (List.Forall₂ related) (items.mapM run) (others.mapM rerun) := by
  induction agree with
  | nil => exact .ok .nil
  | cons first _ ih =>
      rw [List.mapM_cons, List.mapM_cons]
      apply first.bind
      intro one other values
      apply ih.bind
      intro rest remaining rests
      exact .ok (.cons values rests)

theorem agree_mapM_eq {run : α -> Except ε γ} {rerun : β -> Except δ γ} {items : List α}
    {others : List β}
    (agree : List.Forall₂ (fun item other => Agree Eq (run item) (rerun other)) items others) :
    Agree Eq (items.mapM run) (others.mapM rerun) := by
  apply (agree_mapM agree).mono
  intro values changed same
  rwa [List.forall₂_eq_eq_eq] at same

/-- A pass over a list in another order has the same values in another order. -/
theorem agree_mapM_perm {run : α -> Except ε γ} {items others : List α}
    (reordered : items.Perm others) : Agree List.Perm (items.mapM run) (others.mapM run) := by
  have carried {some more : List α} (same : some.Perm more) {found : List γ}
      (succeeded : some.mapM run = .ok found) :
      Exists fun changed => more.mapM run = .ok changed ∧ found.Perm changed := by
    rcases forall₂_perm ((mapM_eq_ok_iff run some found).mp succeeded) same with
      ⟨changed, changedRun, sameValues⟩
    exact ⟨changed, (mapM_eq_ok_iff run more changed).mpr changedRun, sameValues⟩
  apply Agree.of_succeeds_iff
  · constructor
    · rintro ⟨found, succeeded⟩
      rcases carried reordered succeeded with ⟨changed, changedRun, _⟩
      exact ⟨changed, changedRun⟩
    · rintro ⟨found, succeeded⟩
      rcases carried reordered.symm succeeded with ⟨changed, changedRun, _⟩
      exact ⟨changed, changedRun⟩
  · intro found other succeeded otherRun
    rcases carried reordered succeeded with ⟨changed, changedRun, same⟩
    rw [otherRun] at changedRun
    rwa [Except.ok.inj changedRun]

/-! ## Excused failures -/

/-- Both computations end with related values, or both fail, unless the first one fails with an
excuse: then the second one may end in any way. -/
inductive AgreeUnless (excused : ε -> Prop) (related : α -> β -> Prop) :
    Except ε α -> Except δ β -> Prop
  | ok {left : α} {right : β} (values : related left right) :
      AgreeUnless excused related (.ok left) (.ok right)
  | error (first : ε) (second : δ) : AgreeUnless excused related (.error first) (.error second)
  | excused {first : ε} (isExcused : excused first) (right : Except δ β) :
      AgreeUnless excused related (.error first) right

theorem Agree.unless {excused : ε -> Prop} {related : α -> β -> Prop} {left : Except ε α}
    {right : Except δ β} (agree : Agree related left right) :
    AgreeUnless excused related left right := by
  cases agree with
  | ok values => exact .ok values
  | error first second => exact .error first second

namespace AgreeUnless

variable {excused : ε -> Prop} {related : α -> β -> Prop} {left : Except ε α} {right : Except δ β}

theorem map {further : γ -> ζ -> Prop} {change : α -> γ} {alter : β -> ζ}
    (agree : AgreeUnless excused related left right)
    (carries : forall one other, related one other -> further (change one) (alter other)) :
    AgreeUnless excused further (left.map change) (right.map alter) := by
  cases agree with
  | ok values => exact .ok (carries _ _ values)
  | error first second => exact .error first second
  | excused isExcused right => exact .excused isExcused _

/-- An excuse holds of a failure under its new label. -/
theorem mapError {φ ψ : Type u} {excuse : φ -> Prop} {relabel : ε -> φ} {rename : δ -> ψ}
    (agree : AgreeUnless excused related left right)
    (carries : forall failure, excused failure -> excuse (relabel failure)) :
    AgreeUnless excuse related (left.mapError relabel) (right.mapError rename) := by
  cases agree with
  | ok values => exact .ok values
  | error first second => exact .error (relabel first) (rename second)
  | excused isExcused right => exact .excused (carries _ isExcused) _

theorem bind {further : γ -> ζ -> Prop} {next : α -> Except ε γ} {follow : β -> Except δ ζ}
    (agree : AgreeUnless excused related left right)
    (carries : forall one other, left = .ok one -> related one other ->
      AgreeUnless excused further (next one) (follow other)) :
    AgreeUnless excused further (left >>= next) (right >>= follow) := by
  cases agree with
  | ok values => exact carries _ _ rfl values
  | error first second => exact .error first second
  | excused isExcused right => exact .excused isExcused _

/-- Where the second computation succeeds, the first one succeeds alike or has an excuse. -/
theorem of_ok {other : β} (agree : AgreeUnless excused related left right)
    (rightOk : right = .ok other) :
    (Exists fun one => left = .ok one ∧ related one other) ∨
      Exists fun failure => left = .error failure ∧ excused failure := by
  cases agree with
  | ok values =>
      cases rightOk
      exact Or.inl ⟨_, rfl, values⟩
  | error first second => cases rightOk
  | excused isExcused _ => exact Or.inr ⟨_, rfl, isExcused⟩

/-- Where the first computation succeeds, the second one does. -/
theorem exists_ok {one : α} (agree : AgreeUnless excused related left right)
    (leftOk : left = .ok one) : Exists fun other => right = .ok other ∧ related one other := by
  cases agree with
  | ok values =>
      cases leftOk
      exact ⟨_, rfl, values⟩
  | error first second => cases leftOk
  | excused isExcused _ => cases leftOk

end AgreeUnless

/-- A pass over items and one over what they are changed to. -/
theorem agreeUnless_mapM {excused : ε -> Prop} {related : γ -> ζ -> Prop}
    {run : α -> Except ε γ} {rerun : β -> Except δ ζ} {change : α -> β} {items : List α}
    (agree : forall item, item ∈ items ->
      AgreeUnless excused related (run item) (rerun (change item))) :
    AgreeUnless excused (List.Forall₂ related) (items.mapM run)
      ((items.map change).mapM rerun) := by
  induction items with
  | nil => exact .ok .nil
  | cons item rest ih =>
      rw [List.map_cons, List.mapM_cons, List.mapM_cons]
      apply (agree item List.mem_cons_self).bind
      intro one other _ values
      apply (ih fun later member => agree later (List.mem_cons_of_mem _ member)).bind
      intro others remaining _ rests
      exact .ok (.cons values rests)

/-! ## Outcomes that coincide -/

/-- Both computations end with related values, or both fail in the same way. -/
inductive Coincide (related : α -> β -> Prop) :
    Except ε α -> Except ε β -> Prop
  | ok {left : α} {right : β} (values : related left right) : Coincide related (.ok left) (.ok right)
  | error (failure : ε) : Coincide related (.error failure) (.error failure)

theorem Coincide.of_eq {left right : Except ε α} (same : left = right) :
    Coincide Eq left right := by
  rw [same]
  cases right with
  | ok value => exact .ok rfl
  | error failure => exact .error failure

theorem Coincide.eq {left right : Except ε α} (coincide : Coincide Eq left right) :
    left = right := by
  cases coincide with
  | ok same => rw [same]
  | error failure => rfl

theorem Coincide.mono {related weaker : α -> β -> Prop}
    {left : Except ε α} {right : Except ε β} (coincide : Coincide related left right)
    (weakens : forall one other, related one other -> weaker one other) :
    Coincide weaker left right := by
  cases coincide with
  | ok values => exact .ok (weakens _ _ values)
  | error failure => exact .error failure

/-- The values that coincide are those of the computations. -/
theorem Coincide.known {related : α -> β -> Prop}
    {left : Except ε α} {right : Except ε β} (coincide : Coincide related left right) :
    Coincide (fun one other => related one other ∧ left = .ok one) left right := by
  cases coincide with
  | ok values => exact .ok ⟨values, rfl⟩
  | error failure => exact .error failure

end Outcome
end RouteIR
