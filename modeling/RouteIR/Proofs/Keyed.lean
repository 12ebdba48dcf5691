import Mathlib.Data.List.Induction
import Mathlib.Data.List.Nodup
import Mathlib.Data.List.Perm.Subperm
import RouteIR.Keyed

namespace RouteIR
namespace Keyed

/-!
# What a table keeps of its pairs

A table that is built from pairs keeps, for each key, the place of the first pair under it
and the value of the last one.  So nothing is lost, and the pairs are the table, exactly
when no key occurs twice.
-/

variable {α : Type}

theorem mem_of_lookup {key : String} {value : α} {table : List (String × α)}
    (found : table.lookup key = some value) : (key, value) ∈ table := by
  rcases List.lookup_eq_some_iff.mp found with ⟨before, after, rfl, _⟩
  simp

/-- A look-up in what is left of a table when only certain keys are kept. -/
theorem lookup_filter {κ : Type} [BEq κ] [LawfulBEq κ] (keep : κ -> Bool)
    (table : List (κ × α)) (key : κ) :
    (table.filter (keep ·.1)).lookup key = if keep key = true then table.lookup key else none := by
  induction table with
  | nil => simp
  | cons entry rest ih =>
      rw [List.filter_cons, List.lookup_cons]
      by_cases same : key = entry.1
      · subst same
        by_cases kept : keep entry.1 = true
        · rw [if_pos kept, if_pos kept, List.lookup_cons, beq_self_eq_true]
        · rw [if_neg kept, ih, if_neg kept, if_neg kept]
      · rw [beq_false_of_ne same]
        by_cases kept : keep entry.1 = true
        · rw [if_pos kept, List.lookup_cons, beq_false_of_ne same]
          exact ih
        · rw [if_neg kept]
          exact ih

theorem exists_lookup_iff (key : String) (table : List (String × α)) :
    (Exists fun value => table.lookup key = some value) ↔ key ∈ keys table := by
  rw [← Option.isSome_iff_exists, List.lookup_isSome_iff, keys, List.mem_map]
  constructor
  · rintro ⟨entry, member, same⟩
    exact ⟨entry, member, (beq_iff_eq.mp same).symm⟩
  · rintro ⟨entry, member, same⟩
    exact ⟨entry, member, beq_iff_eq.mpr same.symm⟩

/-- Where keys are distinct, a look-up finds the entry under the key. -/
theorem lookup_eq_some_iff {table : List (String × α)} (distinct : (keys table).Nodup)
    (key : String) (value : α) : table.lookup key = some value ↔ (key, value) ∈ table := by
  refine ⟨mem_of_lookup, ?_⟩
  intro member
  rcases (exists_lookup_iff key table).mpr (List.mem_map_of_mem member) with ⟨other, found⟩
  have same := List.inj_on_of_nodup_map distinct (mem_of_lookup found) member rfl
  rw [found, (Prod.mk.inj same).2]

/-- No key is found repeated exactly when the keys are distinct, and new. -/
theorem firstRepeated?_eq_none_iff (seen : List String) (table : List (String × α)) :
    firstRepeated? seen table = none ↔
      (keys table).Nodup ∧ forall key, key ∈ keys table -> key ∉ seen := by
  induction table generalizing seen with
  | nil => simp [firstRepeated?]
  | cons pair rest ih =>
      rw [firstRepeated?, keys_cons, List.nodup_cons]
      by_cases known : pair.1 ∈ seen
      · rw [if_pos known]
        simp [known]
      · rw [if_neg known, ih]
        constructor
        · rintro ⟨distinct, fresh⟩
          refine ⟨⟨fun member => fresh _ member List.mem_cons_self, distinct⟩, ?_⟩
          intro key member
          rcases List.mem_cons.mp member with rfl | later
          · exact known
          · exact fun old => fresh key later (List.mem_cons_of_mem _ old)
        · rintro ⟨⟨new, distinct⟩, fresh⟩
          refine ⟨distinct, fun key member old => ?_⟩
          rcases List.mem_cons.mp old with rfl | earlier
          · exact new member
          · exact fresh key (List.mem_cons_of_mem _ member) earlier

/-- A look-up does not depend on the order of a table with distinct keys. -/
theorem lookup_perm {left right : List (String × α)} (reordered : left.Perm right)
    (distinct : (keys left).Nodup) (key : String) : left.lookup key = right.lookup key := by
  have distinctRight : (keys right).Nodup := (reordered.map Prod.fst).nodup_iff.mp distinct
  apply Option.ext
  intro value
  rw [lookup_eq_some_iff distinct, lookup_eq_some_iff distinctRight]
  exact reordered.mem_iff

/-- Where keys are distinct, writing a value replaces what stood under its key and nothing
else. -/
theorem mem_insert_iff {key : String} {value : α} {table : List (String × α)}
    (distinct : (keys table).Nodup) (entry : String × α) :
    entry ∈ insert key value table ↔ entry = (key, value) ∨ (entry ∈ table ∧ entry.1 ≠ key) := by
  induction table with
  | nil => simp [insert]
  | cons first rest ih =>
      rw [keys_cons, List.nodup_cons] at distinct
      rw [insert]
      by_cases same : first.1 = key
      · have others : entry ∈ rest -> entry.1 ≠ key := by
          intro member equal
          apply distinct.1
          rw [same, ← equal]
          exact List.mem_map_of_mem member
        rw [if_pos same, List.mem_cons, List.mem_cons]
        constructor
        · rintro (new | later)
          · exact Or.inl new
          · exact Or.inr ⟨Or.inr later, others later⟩
        · rintro (new | ⟨rfl | later, differs⟩)
          · exact Or.inl new
          · exact absurd same differs
          · exact Or.inr later
      · rw [if_neg same, List.mem_cons, List.mem_cons, ih distinct.2]
        constructor
        · rintro (rfl | new | ⟨later, differs⟩)
          · exact Or.inr ⟨Or.inl rfl, same⟩
          · exact Or.inl new
          · exact Or.inr ⟨Or.inr later, differs⟩
        · rintro (new | ⟨rfl | later, differs⟩)
          · exact Or.inr (Or.inl new)
          · exact Or.inl rfl
          · exact Or.inr (Or.inr ⟨later, differs⟩)

/-- A value under a new key goes to the end. -/
theorem insert_of_not_mem {key : String} {table : List (String × α)}
    (fresh : key ∉ keys table) (value : α) : insert key value table = table ++ [(key, value)] := by
  induction table with
  | nil => rfl
  | cons first rest ih =>
      rw [keys_cons, List.mem_cons, not_or] at fresh
      rw [insert, if_neg (Ne.symm fresh.1), ih fresh.2]
      rfl

theorem ofList_concat (pairs : List (String × α)) (last : String × α) :
    ofList (pairs ++ [last]) = insert last.1 last.2 (ofList pairs) := by
  rw [ofList, List.foldl_append]
  rfl

theorem mem_keys_ofList_iff (key : String) (pairs : List (String × α)) :
    key ∈ keys (ofList pairs) ↔ key ∈ keys pairs := by
  induction pairs using List.reverseRecOn with
  | nil => rfl
  | append_singleton pairs last ih =>
      rw [ofList_concat, mem_keys_insert, ih, keys, keys, List.map_append, List.mem_append,
        List.map_singleton, List.mem_singleton]
      exact or_comm

/-- A table has under each key the value of the last pair under it. -/
theorem mem_ofList_iff (pairs : List (String × α)) (entry : String × α) :
    entry ∈ ofList pairs ↔ Exists fun before => Exists fun after =>
      pairs = before ++ entry :: after ∧ entry.1 ∉ keys after := by
  induction pairs using List.reverseRecOn with
  | nil => simp [ofList]
  | append_singleton pairs last ih =>
      rw [ofList_concat, mem_insert_iff (nodup_keys_ofList pairs), ih]
      constructor
      · rintro (rfl | ⟨⟨before, after, rfl, fresh⟩, differs⟩)
        · exact ⟨pairs, [], rfl, by simp⟩
        · refine ⟨before, after ++ [last], by simp, ?_⟩
          simpa [keys] using ⟨by simpa [keys] using fresh, differs⟩
      · rintro ⟨before, after, split, fresh⟩
        cases after using List.reverseRecOn with
        | nil =>
            rcases List.append_inj' split rfl with ⟨_, same⟩
            exact Or.inl (List.cons.inj same).1.symm
        | append_singleton after final =>
            have split : pairs ++ [last] = (before ++ entry :: after) ++ [final] := by
              rw [split, List.append_assoc, List.cons_append]
            rcases List.append_inj' split rfl with ⟨samePairs, sameLast⟩
            have sameLast := (List.cons.inj sameLast).1
            simp only [keys, List.map_append, List.map_singleton, List.mem_append,
              List.mem_singleton, not_or] at fresh
            refine Or.inr ⟨⟨before, after, samePairs, fresh.1⟩, ?_⟩
            rw [sameLast]
            exact fresh.2

/-- A table holds nothing but the pairs that it was built from. -/
theorem mem_of_mem_ofList {pairs : List (String × α)} {entry : String × α}
    (member : entry ∈ ofList pairs) : entry ∈ pairs := by
  rcases (mem_ofList_iff pairs entry).mp member with ⟨before, after, rfl, _⟩
  simp

/-- Pairs under distinct keys are a table as they stand. -/
theorem ofList_of_nodup {pairs : List (String × α)} (distinct : (keys pairs).Nodup) :
    ofList pairs = pairs := by
  induction pairs using List.reverseRecOn with
  | nil => rfl
  | append_singleton pairs last ih =>
      rw [keys, List.map_append, List.map_singleton, List.nodup_append] at distinct
      rcases distinct with ⟨old, _, apart⟩
      have fresh : last.1 ∉ keys pairs := by
        intro member
        exact apart last.1 member last.1 (List.mem_singleton.mpr rfl) rfl
      rw [ofList_concat, ih old, insert_of_not_mem fresh]

/-- Values under the same keys, related place by place. -/
def Related {β : Type} (related : α -> β -> Prop) : List (String × α) -> List (String × β) -> Prop :=
  List.Forall₂ fun one other => one.1 = other.1 ∧ related one.2 other.2

theorem Related.keys {β : Type} {related : α -> β -> Prop} {table : List (String × α)}
    {others : List (String × β)} (pairs : Related related table others) :
    keys table = keys others := by
  induction pairs with
  | nil => rfl
  | cons first _ ih => rw [keys_cons, keys_cons, first.1, ih]

theorem Related.insert {β : Type} {related : α -> β -> Prop} {table : List (String × α)}
    {others : List (String × β)} (pairs : Related related table others) (key : String)
    {value : α} {other : β} (values : related value other) :
    Related related (insert key value table) (insert key other others) := by
  induction pairs with
  | nil => exact .cons ⟨rfl, values⟩ .nil
  | @cons entry changed _ _ first rest ih =>
      rw [Keyed.insert, Keyed.insert, ← first.1]
      split
      · exact .cons ⟨rfl, values⟩ rest
      · exact .cons ⟨rfl, first.2⟩ ih

/-- Related pairs make related tables. -/
theorem Related.ofList {β : Type} {related : α -> β -> Prop} {pairs : List (String × α)}
    {others : List (String × β)} (alike : Related related pairs others) :
    Related related (ofList pairs) (ofList others) := by
  have step {table : List (String × α)} {changed : List (String × β)}
      (start : Related related table changed) :
      Related related (pairs.foldl (fun table pair => Keyed.insert pair.1 pair.2 table) table)
        (others.foldl (fun table pair => Keyed.insert pair.1 pair.2 table) changed) := by
    induction alike generalizing table changed with
    | nil => exact start
    | cons first _ ih =>
        rw [List.foldl_cons, List.foldl_cons, ← first.1]
        exact ih (start.insert _ first.2)
  exact step .nil

/-- Every pair has an entry of its own exactly when no key occurs twice. -/
theorem length_ofList_iff (pairs : List (String × α)) :
    (ofList pairs).length = pairs.length ↔ (keys pairs).Nodup := by
  constructor
  · intro sameLength
    have within : (keys (ofList pairs)).Subperm (keys pairs) := by
      refine List.subperm_of_subset (nodup_keys_ofList pairs) ?_
      exact fun key => (mem_keys_ofList_iff key pairs).mp
    have reordered : (keys (ofList pairs)).Perm (keys pairs) := by
      apply within.perm_of_length_le
      simp only [keys, List.length_map, sameLength, Nat.le_refl]
    exact reordered.nodup_iff.mp (nodup_keys_ofList pairs)
  · intro distinct
    rw [ofList_of_nodup distinct]

/-! ## Items by their keys -/

variable {κ : Type} [DecidableEq κ] {key : α -> κ} {items : List α} {item : α} {wanted : κ}

theorem key_of_find? (found : items.find? (key · = wanted) = some item) : key item = wanted := by
  have same := List.find?_some found
  exact of_decide_eq_true same

theorem find?_key_eq_none_iff :
    items.find? (key · = wanted) = none ↔ wanted ∉ items.map key := by
  simp

/-- Where keys are distinct, an item is what is found under its key. -/
theorem find?_key (distinct : (items.map key).Nodup) (member : item ∈ items) :
    items.find? (key · = key item) = some item := by
  cases found : items.find? (key · = key item) with
  | none => exact absurd (List.mem_map_of_mem member) (find?_key_eq_none_iff.mp found)
  | some other =>
      have otherMember := List.mem_of_find?_eq_some found
      exact congrArg some
        (List.inj_on_of_nodup_map distinct otherMember member (key_of_find? found))

/-- Where keys are distinct, one item has a key that occurs. -/
theorem exists_filter_eq_singleton
    (distinct : (items.map key).Nodup) (member : wanted ∈ items.map key) :
    Exists fun item => items.filter (key · = wanted) = [item] := by
  have once := List.count_eq_one_of_mem distinct member
  rw [List.count, List.countP_map, List.countP_eq_length_filter] at once
  exact List.length_eq_one_iff.mp once

end Keyed
end RouteIR
