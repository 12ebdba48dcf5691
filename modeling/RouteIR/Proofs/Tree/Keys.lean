import Mathlib.Data.List.Nodup
import RouteIR.Tree.Text

namespace RouteIR
namespace Tree

/-!
# Mappings whose keys differ

A mapping of a document has no two keys of one value.  A tree can be built that breaks this;
the trees that keep it at every mapping inside them are the ones that a document can load
into.  In such a mapping an entry is found by its key wherever it stands, so the order of the
entries has no part in a look-up.
-/

/-- The entries of a mapping; every other tree has none. -/
def entries : Tree -> List (Tree × Tree)
  | map entries _ => entries
  | _ => []

/-- A mapping with texts for its keys. -/
def object (entries : List (String × Tree)) : Tree :=
  map (entries.map fun entry => (str entry.1, entry.2)) none

/-- What the key of an entry denotes. -/
def keyIdentity (entry : Tree × Tree) : Option Identity := entry.1.identity.toOption

mutual

/-- Whether no mapping in a tree has two keys that denote one value. -/
def isWellKeyed : Tree -> Bool
  | list items _ => allWellKeyed items
  | tuple items _ => allWellKeyed items
  | set members => allWellKeyed members
  | map entries _ => decide (entries.map keyIdentity).Nodup && entriesWellKeyed entries
  | _ => true

def allWellKeyed : List Tree -> Bool
  | [] => true
  | item :: rest => item.isWellKeyed && allWellKeyed rest

def entriesWellKeyed : List (Tree × Tree) -> Bool
  | [] => true
  | (key, value) :: rest => key.isWellKeyed && value.isWellKeyed && entriesWellKeyed rest

end

mutual

/-- Whether the keys of all mappings in a tree are texts. -/
def isTextKeyed : Tree -> Bool
  | list items _ => allTextKeyed items
  | tuple items _ => allTextKeyed items
  | set members => allTextKeyed members
  | map entries _ => entriesTextKeyed entries
  | _ => true

def allTextKeyed : List Tree -> Bool
  | [] => true
  | item :: rest => item.isTextKeyed && allTextKeyed rest

def entriesTextKeyed : List (Tree × Tree) -> Bool
  | [] => true
  | (.str _, value) :: rest => value.isTextKeyed && entriesTextKeyed rest
  | _ :: _ => false

end

/-! ## Looking up -/

theorem isText_iff (tree : Tree) (text : String) : tree.isText text = true ↔ tree = .str text := by
  cases tree <;> simp [isText]

theorem mem_of_lookup? {key : String} {entries : List (Tree × Tree)} {value : Tree}
    (found : lookup? key entries = some value) : (.str key, value) ∈ entries := by
  induction entries with
  | nil => cases found
  | cons entry rest ih =>
      rcases entry with ⟨entryKey, entryValue⟩
      rw [lookup?] at found
      split at found
      · next same =>
          cases found
          rw [(isText_iff entryKey key).mp same]
          exact List.mem_cons_self
      · exact List.mem_cons_of_mem _ (ih found)

theorem hasKey_of_mem {key : String} {entries : List (Tree × Tree)} {value : Tree}
    (member : (.str key, value) ∈ entries) : hasKey key entries = true := by
  induction entries with
  | nil => cases member
  | cons entry rest ih =>
      rcases entry with ⟨entryKey, entryValue⟩
      rw [hasKey, lookup?]
      split
      · rfl
      · next differs =>
          rcases List.mem_cons.mp member with first | later
          · exact absurd ((isText_iff _ _).mpr (Prod.mk.inj first).1.symm) differs
          · exact ih later

/-- Where keys differ, a look-up finds the entry that has the key. -/
theorem lookup?_eq_some_iff {entries : List (Tree × Tree)}
    (distinct : (entries.map keyIdentity).Nodup) (key : String) (value : Tree) :
    lookup? key entries = some value ↔ (.str key, value) ∈ entries := by
  refine ⟨mem_of_lookup?, ?_⟩
  intro member
  induction entries with
  | nil => cases member
  | cons entry rest ih =>
      rcases entry with ⟨entryKey, entryValue⟩
      rw [List.map_cons, List.nodup_cons] at distinct
      rw [lookup?]
      split
      · next same =>
          rcases List.mem_cons.mp member with first | later
          · rw [(Prod.mk.inj first).2]
          · have taken : keyIdentity (.str key, value) ∈ rest.map keyIdentity :=
              List.mem_map_of_mem later
            rw [(isText_iff entryKey key).mp same] at distinct
            exact absurd taken distinct.1
      · next differs =>
          rcases List.mem_cons.mp member with first | later
          · exact absurd ((isText_iff entryKey key).mpr (Prod.mk.inj first).1.symm) differs
          · exact ih distinct.2 later

/-- Of entries that are related one by one, under keys that read alike, a look-up finds two that
are related, or none. -/
theorem lookup?_related {related : Tree × Tree -> Tree × Tree -> Prop}
    {left right : List (Tree × Tree)} (entries : List.Forall₂ related left right) (key : String)
    (alike : forall entry changed, related entry changed ->
      entry.1.isText key = changed.1.isText key) :
    (lookup? key left = none ∧ lookup? key right = none) ∨
      Exists fun entry => Exists fun changed => lookup? key left = some entry.2 ∧
        lookup? key right = some changed.2 ∧ entry.1 = .str key ∧ related entry changed := by
  induction entries with
  | nil => exact Or.inl ⟨rfl, rfl⟩
  | @cons entry changed _ _ first _ ih =>
      rw [lookup?, lookup?, ← alike entry changed first]
      split
      · next same =>
          exact Or.inr ⟨entry, changed, rfl, rfl, (isText_iff entry.1 key).mp same, first⟩
      · exact ih

/-- A look-up does not depend on the order of entries whose keys differ. -/
theorem lookup?_perm {left right : List (Tree × Tree)} (reordered : left.Perm right)
    (distinct : (left.map keyIdentity).Nodup) (key : String) :
    lookup? key left = lookup? key right := by
  have distinctRight : (right.map keyIdentity).Nodup :=
    (reordered.map keyIdentity).nodup_iff.mp distinct
  apply Option.ext
  intro value
  rw [lookup?_eq_some_iff distinct, lookup?_eq_some_iff distinctRight]
  exact reordered.mem_iff

theorem field_perm {left right : List (Tree × Tree)} (reordered : left.Perm right)
    (distinct : (left.map keyIdentity).Nodup) (key : String) :
    field key left = field key right := by
  rw [field, field, lookup?_perm reordered distinct]

/-! ## Parts of a tree -/

theorem isWellKeyed_map_iff (entries : List (Tree × Tree)) (label : Option Label) :
    (map entries label).isWellKeyed = true ↔
      (entries.map keyIdentity).Nodup ∧ forall entry, entry ∈ entries ->
        entry.1.isWellKeyed = true ∧ entry.2.isWellKeyed = true := by
  have perEntry (entries : List (Tree × Tree)) :
      entriesWellKeyed entries = true ↔ forall entry, entry ∈ entries ->
        entry.1.isWellKeyed = true ∧ entry.2.isWellKeyed = true := by
    induction entries with
    | nil => simp [entriesWellKeyed]
    | cons entry rest ih => simp [entriesWellKeyed, ih]
  rw [isWellKeyed, Bool.and_eq_true, decide_eq_true_iff, perEntry]

theorem nodup_keys_of_isWellKeyed {tree : Tree} (wellKeyed : tree.isWellKeyed = true) :
    (tree.entries.map keyIdentity).Nodup := by
  cases tree with
  | map entries label => exact ((isWellKeyed_map_iff entries label).mp wellKeyed).1
  | _ => exact List.nodup_nil

theorem isWellKeyed_of_entry {tree : Tree} (wellKeyed : tree.isWellKeyed = true)
    {entry : Tree × Tree} (member : entry ∈ tree.entries) : entry.2.isWellKeyed = true := by
  cases tree with
  | map entries label => exact (((isWellKeyed_map_iff entries label).mp wellKeyed).2 entry member).2
  | _ => cases member

theorem isWellKeyed_field {tree : Tree} (wellKeyed : tree.isWellKeyed = true) (key : String) :
    (field key tree.entries).isWellKeyed = true := by
  rw [field]
  cases found : lookup? key tree.entries with
  | none => rfl
  | some value => exact isWellKeyed_of_entry wellKeyed (mem_of_lookup? found)

theorem isTextKeyed_map_iff (entries : List (Tree × Tree)) (label : Option Label) :
    (map entries label).isTextKeyed = true ↔ forall entry, entry ∈ entries ->
      (Exists fun name => entry.1 = .str name) ∧ entry.2.isTextKeyed = true := by
  rw [isTextKeyed]
  induction entries with
  | nil => simp [entriesTextKeyed]
  | cons entry rest ih =>
      rcases entry with ⟨key, value⟩
      cases key with
      | str name => simp [entriesTextKeyed, ih]
      | _ => simp [entriesTextKeyed]

theorem isTextKeyed_of_entry {tree : Tree} (textKeyed : tree.isTextKeyed = true)
    {entry : Tree × Tree} (member : entry ∈ tree.entries) :
    (Exists fun name => entry.1 = .str name) ∧ entry.2.isTextKeyed = true := by
  cases tree with
  | map entries label => exact (isTextKeyed_map_iff entries label).mp textKeyed entry member
  | _ => cases member

theorem isTextKeyed_field {tree : Tree} (textKeyed : tree.isTextKeyed = true) (key : String) :
    (field key tree.entries).isTextKeyed = true := by
  rw [field]
  cases found : lookup? key tree.entries with
  | none => rfl
  | some value => exact (isTextKeyed_of_entry textKeyed (mem_of_lookup? found)).2

/-- Keys that are texts are told apart by what they read. -/
theorem nodup_texts {entries : List (Tree × Tree)}
    (distinct : (entries.map keyIdentity).Nodup)
    (texts : forall entry, entry ∈ entries -> Exists fun text => entry.1 = .str text) :
    (entries.map (·.1.display)).Nodup := by
  refine List.Nodup.of_map (fun text => some (Identity.text text)) ?_
  have same : (entries.map (·.1.display)).map (fun text => some (Identity.text text)) =
      entries.map keyIdentity := by
    rw [List.map_map]
    apply List.map_congr_left
    intro entry member
    rcases texts entry member with ⟨text, isText⟩
    simp only [Function.comp_apply, keyIdentity, isText, display, identity, Except.toOption]
  rw [same]
  exact distinct

/-! ## Values inside a tree -/

/-- A value that a tree holds at any depth, in a list or under a key of a mapping. -/
inductive Holds (tree : Tree) : Tree -> Prop
  | root : Holds tree tree
  | entry {outer : Tree} {entry : Tree × Tree} (within : Holds tree outer)
      (member : entry ∈ outer.entries) : Holds tree entry.2
  | item {items : List Tree} {label : Option Label} {item : Tree}
      (within : Holds tree (.list items label)) (member : item ∈ items) : Holds tree item

namespace Holds

variable {tree middle inner : Tree}

theorem trans (outer : tree.Holds middle) (within : middle.Holds inner) : tree.Holds inner := by
  induction within with
  | root => exact outer
  | entry _ member ih => exact ih.entry member
  | item _ member ih => exact ih.item member

theorem lookup {key : String} (within : tree.Holds middle)
    (found : lookup? key middle.entries = some inner) : tree.Holds inner :=
  within.entry (mem_of_lookup? found)

/-- What stands under a key is inside the tree, unless nothing does. -/
theorem field {key : String} (within : tree.Holds middle)
    (found : field key middle.entries = inner) (present : inner ≠ null) : tree.Holds inner := by
  rw [Tree.field] at found
  cases looked : lookup? key middle.entries with
  | none =>
      rw [looked] at found
      exact absurd found.symm present
  | some value =>
      rw [looked] at found
      rw [← found]
      exact within.lookup looked

/-- An entry of the mapping that stands under a key is inside the tree. -/
theorem fieldEntry {key : String} (within : tree.Holds middle) {entry : Tree × Tree}
    (member : entry ∈ (Tree.field key middle.entries).entries) : tree.Holds entry.2 := by
  have present : Tree.field key middle.entries ≠ null := by
    intro absent
    rw [absent] at member
    cases member
  exact (within.field rfl present).entry member

end Holds

end Tree
end RouteIR
