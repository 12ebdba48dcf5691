import Mathlib.Data.List.Forall2
import RouteIR.Proofs.Tree.Keys
import RouteIR.Vocabulary

namespace RouteIR

/-!
# Where the order of keys means nothing

Every value of a document has a role in it.  The members of some mappings are looked up by
fixed keys, and the entries of the others are gone through in order, so the keys of the
former can be written in any order.  Two trees are related in this module that differ in the
order of keys in mappings of such a role only, at any depth and in any number of them.
-/

/-- What a value of a document is read as. -/
inductive Role where
  | document
  | components
  | schemas
  | schema
  | properties
  | paths
  | pathItem
  | operation
  | parameters
  | parameter
  | responses
  | body
  | content
  | media
deriving DecidableEq, Repr

namespace Role

/-- Whether the members of a mapping are looked up by their keys alone. -/
def isFree : Role -> Bool
  | document | components | schema | parameter | operation => true
  | schemas | properties | paths | pathItem | parameters | responses | body | content | media =>
      false

/-- The role of what stands under one of several fixed keys. -/
def member (roles : List (String × Role)) (key : Tree) : Option Role :=
  (roles.find? (key.isText ·.1)).map (·.2)

/-- The role of what stands under a key of a mapping, where reading goes on there. -/
def inner (role : Role) (key : Tree) : Option Role :=
  match role with
  | document => member [("components", components), ("paths", paths)] key
  | components => member [("schemas", schemas)] key
  | schemas => some schema
  | schema => member [("properties", properties), ("items", schema)] key
  | properties => some schema
  | paths => some pathItem
  | pathItem =>
      (member [("parameters", parameters)] key).or ((Method.ofKey? key).map fun _ => operation)
  | operation =>
      member [("parameters", parameters), ("requestBody", body), ("responses", responses)] key
  | parameters => none
  | parameter => member [("schema", schema)] key
  | responses => some body
  | body => member [("schema", schema), ("content", content)] key
  | content => some media
  | media => member [("schema", schema)] key

theorem inner_operation {key : Tree} {method : Method} (named : Method.ofKey? key = some method) :
    inner pathItem key = some operation := by
  have other : key.isText "parameters" = false := by
    cases same : key.isText "parameters" with
    | false => rfl
    | true =>
        rw [(Tree.isText_iff key "parameters").mp same] at named
        have unnamed : Method.ofKey? (.str "parameters") = none := by decide +kernel
        rw [unnamed] at named
        cases named
  simp [inner, member, other, named]

end Role

namespace Tree

/-- Entries may stand in another order where they are looked up by their keys, as long as
these denote different values, like those of every mapping of a document. -/
def Arranged (role : Role) (left right : List (Tree × Tree)) : Prop :=
  left = right ∨ (role.isFree = true ∧ (left.map keyIdentity).Nodup ∧ left.Perm right)

/-- Two values of one role that differ in the order of keys in free mappings only.  Where
nothing is read on, they do not differ. -/
inductive KeysReordered : Option Role -> Tree -> Tree -> Prop
  | same (role : Option Role) (tree : Tree) : KeysReordered role tree tree
  | map {role : Role} {left middle right : List (Tree × Tree)} {label other : Option Label}
      (count : left.length = middle.length)
      (keys : forall entry changed, (entry, changed) ∈ left.zip middle -> changed.1 = entry.1)
      (values : forall entry changed, (entry, changed) ∈ left.zip middle ->
        KeysReordered (role.inner entry.1) entry.2 changed.2)
      (arranged : Arranged role middle right) :
      KeysReordered (some role) (.map left label) (.map right other)
  | list {left right : List Tree} {label other : Option Label}
      (count : left.length = right.length)
      (items : forall item changed, (item, changed) ∈ left.zip right ->
        KeysReordered (some .parameter) item changed) :
      KeysReordered (some .parameters) (.list left label) (.list right other)

/-- An entry under the same key, with the value reordered. -/
structure EntryOf (role : Role) (entry changed : Tree × Tree) : Prop where
  key : changed.1 = entry.1
  value : KeysReordered (role.inner entry.1) entry.2 changed.2

/-- Entries of two mappings of one role. -/
def EntriesReordered (role : Role) (left right : List (Tree × Tree)) : Prop :=
  Exists fun middle => List.Forall₂ (EntryOf role) left middle ∧ Arranged role middle right

theorem EntriesReordered.map {role : Role} {left right : List (Tree × Tree)}
    (reordered : EntriesReordered role left right) (label other : Option Label) :
    KeysReordered (some role) (.map left label) (.map right other) := by
  rcases reordered with ⟨middle, related, arranged⟩
  rcases List.forall₂_iff_zip.mp related with ⟨count, entries⟩
  exact .map count (fun _ _ pair => (entries pair).key) (fun _ _ pair => (entries pair).value)
    arranged

/-- What two related values have in common: they are mappings, or they are the same. -/
inductive ReorderedView (role : Role) : Tree -> Tree -> Prop
  | map {left right : List (Tree × Tree)} {label other : Option Label}
      (entries : EntriesReordered role left right) :
      ReorderedView role (.map left label) (.map right other)
  | leaf {tree : Tree} (notMap : forall entries label, tree ≠ .map entries label) :
      ReorderedView role tree tree

namespace KeysReordered

variable {left right : Tree}

theorem eq_of_none (reordered : KeysReordered none left right) : left = right := by
  cases reordered with
  | same => rfl

theorem forall₂_refl (role : Role) (entries : List (Tree × Tree)) :
    List.Forall₂ (EntryOf role) entries entries := by
  rw [List.forall₂_same]
  exact fun entry _ => ⟨rfl, .same _ _⟩

theorem view {role : Role} (notList : role ≠ .parameters)
    (reordered : KeysReordered (some role) left right) : ReorderedView role left right := by
  cases reordered with
  | same =>
      cases left with
      | map entries label => exact .map ⟨entries, forall₂_refl role entries, Or.inl rfl⟩
      | null | bool _ | int _ | float _ | str _ | bytes _ | date _ | dateTime _ | list _ _
      | tuple _ _ | set _ => exact .leaf nofun
  | map count keys values arranged =>
      refine .map ⟨_, List.forall₂_iff_zip.mpr ⟨count, ?_⟩, arranged⟩
      intro entry changed pair
      exact ⟨keys entry changed pair, values entry changed pair⟩
  | list => exact absurd rfl notList

end KeysReordered

/-! ## Looking up -/

namespace EntriesReordered

variable {role : Role} {left right : List (Tree × Tree)}

/-- In a mapping that is not free the entries stand in the same order. -/
theorem inOrder (reordered : EntriesReordered role left right) (bound : role.isFree = false) :
    List.Forall₂ (EntryOf role) left right := by
  rcases reordered with ⟨middle, entries, rfl | ⟨free, _, _⟩⟩
  · exact entries
  · rw [bound] at free
    cases free

/-- Nothing stands under a key in either mapping, or related values do. -/
def FoundAlike (role : Role) (left right : List (Tree × Tree)) (key : String) : Prop :=
  (lookup? key left = none ∧ lookup? key right = none) ∨
    Exists fun value => Exists fun changed => lookup? key left = some value ∧
      lookup? key right = some changed ∧ KeysReordered (role.inner (.str key)) value changed

theorem foundAlike_of_forall₂ (entries : List.Forall₂ (EntryOf role) left right)
    (key : String) : FoundAlike role left right key := by
  rcases lookup?_related entries key fun _ _ entryOf => by rw [entryOf.key] with
    absent | ⟨entry, changed, found, other, same, entryOf⟩
  · exact Or.inl absent
  · have values := entryOf.value
    rw [same] at values
    exact Or.inr ⟨entry.2, changed.2, found, other, values⟩

/-- What stands under a key is reordered as well. -/
theorem foundAlike (reordered : EntriesReordered role left right) (key : String) :
    FoundAlike role left right key := by
  rcases reordered with ⟨middle, entries, arranged⟩
  have sameLookup : lookup? key middle = lookup? key right := by
    rcases arranged with rfl | ⟨_, distinct, order⟩
    · rfl
    · exact lookup?_perm order distinct key
  have found := foundAlike_of_forall₂ entries key
  rwa [FoundAlike, sameLookup] at found

theorem field_reordered (reordered : EntriesReordered role left right) (key : String) :
    KeysReordered (role.inner (.str key)) (field key left) (field key right) := by
  rcases reordered.foundAlike key with ⟨absent, missing⟩ | ⟨value, changed, found, other, values⟩
  · rw [field, field, absent, missing]
    exact .same _ _
  · rw [field, field, found, other]
    exact values

/-- Where nothing is read on under a key, the same value stands there. -/
theorem lookup?_eq (reordered : EntriesReordered role left right) (key : String)
    (unread : role.inner (.str key) = none) : lookup? key left = lookup? key right := by
  rcases reordered.foundAlike key with ⟨absent, missing⟩ | ⟨value, changed, found, other, values⟩
  · rw [absent, missing]
  · rw [unread] at values
    rw [found, other, values.eq_of_none]

theorem field_eq (reordered : EntriesReordered role left right) (key : String)
    (unread : role.inner (.str key) = none) : field key left = field key right := by
  rw [field, field, reordered.lookup?_eq key unread]

theorem hasKey_eq (reordered : EntriesReordered role left right) (key : String) :
    hasKey key left = hasKey key right := by
  rcases reordered.foundAlike key with ⟨absent, missing⟩ | ⟨value, changed, found, other, _⟩
  · rw [hasKey, hasKey, absent, missing]
  · rw [hasKey, hasKey, found, other]
    rfl

theorem isEmpty_eq (reordered : EntriesReordered role left right) :
    left.isEmpty = right.isEmpty := by
  rcases reordered with ⟨middle, entries, arranged⟩
  have sameLength : left.length = right.length := by
    rcases arranged with rfl | ⟨_, _, order⟩
    · exact entries.length_eq
    · exact entries.length_eq.trans order.length_eq
  rw [Bool.eq_iff_iff, List.isEmpty_iff_length_eq_zero, List.isEmpty_iff_length_eq_zero, sameLength]

theorem keysAreLegible_eq (reordered : EntriesReordered role left right) :
    keysAreLegible left = keysAreLegible right := by
  rcases reordered with ⟨middle, entries, arranged⟩
  have sameKeys : keysAreLegible left = keysAreLegible middle := by
    clear arranged
    induction entries with
    | nil => rfl
    | cons entry _ ih => rw [keysAreLegible_cons, keysAreLegible_cons, entry.key, ih]
  rcases arranged with rfl | ⟨_, _, order⟩
  · exact sameKeys
  · exact sameKeys.trans (keysAreLegible_of_perm order)

end EntriesReordered

theorem ReorderedView.isEmptyLike_eq {role : Role} {left right : Tree}
    (view : ReorderedView role left right) : left.isEmptyLike = right.isEmptyLike := by
  cases view with
  | map entries => exact entries.isEmpty_eq
  | leaf _ => rfl

/-! ## Objects -/

/-- Members of an object under the same keys, reordered inside. -/
def MembersReordered (role : Role) : List (String × Tree) -> List (String × Tree) -> Prop :=
  List.Forall₂ fun entry changed => changed.1 = entry.1 ∧
    KeysReordered (role.inner (.str entry.1)) entry.2 changed.2

section Members

variable {role : Role} {left right : List (String × Tree)}

theorem MembersReordered.entries (members : MembersReordered role left right) :
    List.Forall₂ (EntryOf role) (left.map fun entry => (str entry.1, entry.2))
      (right.map fun entry => (str entry.1, entry.2)) := by
  rw [List.forall₂_map_left_iff, List.forall₂_map_right_iff]
  apply members.imp
  rintro ⟨key, value⟩ ⟨_, changed⟩ ⟨rfl, values⟩
  exact ⟨rfl, values⟩

theorem MembersReordered.inOrder (members : MembersReordered role left right) :
    KeysReordered (some role) (.object left) (.object right) :=
  EntriesReordered.map ⟨_, members.entries, Or.inl rfl⟩ none none

theorem MembersReordered.anyOrder (members : MembersReordered role left right)
    (free : role.isFree = true) (distinct : (right.map Prod.fst).Nodup)
    {others : List (String × Tree)} (order : right.Perm others) :
    KeysReordered (some role) (.object left) (.object others) := by
  refine EntriesReordered.map ⟨_, members.entries, Or.inr ⟨free, ?_, order.map _⟩⟩ none none
  have texts : (right.map fun entry => (str entry.1, entry.2)).map keyIdentity =
      (right.map Prod.fst).map fun key => some (Identity.text key) := by
    rw [List.map_map, List.map_map]
    rfl
  rw [texts]
  apply distinct.map
  intro key other same
  cases same
  rfl

end Members

end Tree
end RouteIR
