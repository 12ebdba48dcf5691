import RouteIR.Proofs.Number.Text
import RouteIR.Proofs.Tree.Keys
import RouteIR.Rule

namespace RouteIR
namespace Tree

/-!
# Keys spelled as texts

A key may be any scalar, and a tree is respelled when every key becomes the text that it reads
as, if it has one.  The keys that reading looks for are words, and no key but the text itself
reads as one of them.  So a word is found in a respelled mapping just where it is found in the
mapping.
-/

/-- The text that a key reads as; a key that has none stays as it is. -/
def respelledKey (key : Tree) : Tree := if key.isLegible then .str key.display else key

mutual

/-- A tree with every key of its mappings replaced by the text that the key reads as. -/
def respelled : Tree -> Tree
  | list items label => list (respelledItems items) label
  | tuple items label => tuple (respelledItems items) label
  | set members => set (respelledItems members)
  | map entries label => map (respelledEntries entries) label
  | tree => tree

def respelledItems : List Tree -> List Tree
  | [] => []
  | item :: rest => item.respelled :: respelledItems rest

def respelledEntries : List (Tree × Tree) -> List (Tree × Tree)
  | [] => []
  | (key, value) :: rest => (respelledKey key, value.respelled) :: respelledEntries rest

end

mutual

/-- Whether no two keys of a mapping in a tree read alike. -/
def isSpelledApart : Tree -> Bool
  | list items _ => allSpelledApart items
  | tuple items _ => allSpelledApart items
  | set members => allSpelledApart members
  | map entries _ => decide (entries.map (·.1.display)).Nodup && entriesSpelledApart entries
  | _ => true

def allSpelledApart : List Tree -> Bool
  | [] => true
  | item :: rest => item.isSpelledApart && allSpelledApart rest

def entriesSpelledApart : List (Tree × Tree) -> Bool
  | [] => true
  | (_, value) :: rest => value.isSpelledApart && entriesSpelledApart rest

end

def respelledEntry (entry : Tree × Tree) : Tree × Tree :=
  (respelledKey entry.1, entry.2.respelled)

/-- The texts that the keys of a mapping read as. -/
def keyTexts (entries : List (Tree × Tree)) : List String :=
  (entries.filter (·.1.isLegible)).map (·.1.display)

theorem respelledKey_of_isLegible {key : Tree} (legible : key.isLegible = true) :
    respelledKey key = .str key.display := if_pos legible

theorem respelledKey_of_not_isLegible {key : Tree} (unknown : key.isLegible = false) :
    respelledKey key = key := if_neg (Bool.eq_false_iff.mp unknown)

@[simp] theorem display_respelledKey (key : Tree) : (respelledKey key).display = key.display := by
  rw [respelledKey]
  split <;> rfl

@[simp] theorem isLegible_respelledKey (key : Tree) :
    (respelledKey key).isLegible = key.isLegible := by
  rw [respelledKey]
  split
  · next legible => exact legible.symm
  · rfl

theorem keysAreLegible_respelled (entries : List (Tree × Tree)) :
    keysAreLegible (entries.map respelledEntry) = keysAreLegible entries := by
  induction entries with
  | nil => rfl
  | cons entry rest ih =>
      rw [List.map_cons, keysAreLegible_cons, keysAreLegible_cons, ih, respelledEntry,
        isLegible_respelledKey]

theorem respelledItems_eq (items : List Tree) : respelledItems items = items.map respelled := by
  induction items with
  | nil => rfl
  | cons item rest ih => rw [respelledItems, ih, List.map_cons]

theorem respelledEntries_eq (entries : List (Tree × Tree)) :
    respelledEntries entries = entries.map respelledEntry := by
  induction entries with
  | nil => rfl
  | cons entry rest ih => rw [respelledEntries, ih, List.map_cons, respelledEntry]

@[simp] theorem respelled_str (text : String) : (str text).respelled = str text := rfl

@[simp] theorem respelled_map (entries : List (Tree × Tree)) (label : Option Label) :
    (map entries label).respelled = map (entries.map respelledEntry) label := by
  rw [respelled, respelledEntries_eq]

@[simp] theorem respelled_list (items : List Tree) (label : Option Label) :
    (list items label).respelled = list (items.map respelled) label := by
  rw [respelled, respelledItems_eq]

/-! ## What other keys read as -/

/-- The first characters of what is not a text, except for a few words. -/
def otherHeads : List Char := "NTFb0123456789-[(\x7b".toList

/-- The words that what is not a text may read as, beside those of `otherHeads`. -/
def otherWords : List String := ["nan", "inf", "set()"]

/-- What something that is not a text reads as. -/
def ReadsOther (text : String) : Prop :=
  text ∈ otherWords ∨ Exists fun head => text.toList.head? = some head ∧ head ∈ otherHeads

theorem readsOther_of_head {text : String} {head : Char} {rest : List Char}
    (chars : text.toList = head :: rest) (known : head ∈ otherHeads) : ReadsOther text := by
  refine Or.inr ⟨head, ?_, known⟩
  rw [chars, List.head?_cons]

theorem mem_otherHeads_of_isDigit {char : Char} (isDigit : char.isDigit = true) :
    char ∈ otherHeads := by
  simp only [Char.isDigit, Bool.and_eq_true, decide_eq_true_eq, ge_iff_le] at isDigit
  have low : 48 ≤ char.toNat := isDigit.1
  have high : char.toNat ≤ 57 := isDigit.2
  have all : forall value : Fin 10, Char.ofNat (48 + value) ∈ otherHeads := by decide
  have known := all ⟨char.toNat - 48, by omega⟩
  rwa [Nat.add_sub_cancel' low, Char.ofNat_toNat] at known

theorem readsOther_numeral {text : String} (numeral : Numeral text.toList) : ReadsOther text := by
  have word {known : String} (same : text.toList = known.toList) : text = known :=
    String.toList_inj.mp same
  generalize chars : text.toList = letters at numeral
  cases numeral with
  | nan =>
      rw [word chars]
      exact Or.inl (by decide)
  | infinite =>
      rw [word chars]
      exact Or.inl (by decide)
  | negativeInfinite => exact readsOther_of_head chars (by decide)
  | positive magnitude =>
      cases magnitude with
      | intro isDigit _ => exact readsOther_of_head chars (mem_otherHeads_of_isDigit isDigit)
  | negative _ => exact readsOther_of_head chars (by decide)

theorem readsOther_append {opening closing : String} {head : Char} {rest : List Char}
    (chars : opening.toList = head :: rest) (known : head ∈ otherHeads) :
    ReadsOther (opening ++ closing) := by
  refine @readsOther_of_head _ head (rest ++ closing.toList) ?_ known
  rw [String.toList_append, chars, List.cons_append]

/-- A number of at least one digit is not empty. -/
theorem readsOther_padded (width value : Nat) (closing : String) :
    ReadsOther (Calendar.padded width value ++ closing) := by
  have areDigits : forall char, char ∈ (Calendar.padded width value).toList ->
      char.isDigit = true := by
    intro char member
    rw [Calendar.padded, String.toList_ofList] at member
    rcases List.mem_append.mp member with zero | digit
    · exact isDigit_of_zeros zero
    · exact isDigit_of_toDigits digit
  cases chars : (Calendar.padded width value).toList with
  | nil =>
      rw [Calendar.padded, String.toList_ofList, List.append_eq_nil_iff] at chars
      exact absurd chars.2 Nat.toDigits_ne_nil
  | cons head rest =>
      have digit := areDigits head (by simp [chars])
      exact readsOther_append chars (mem_otherHeads_of_isDigit digit)

theorem readsOther_date (date : Date) (closing : String) :
    ReadsOther (date.isoText ++ closing) := by
  rw [Date.isoText, String.append_assoc, String.append_assoc, String.append_assoc,
    String.append_assoc]
  exact readsOther_padded _ _ _

theorem display_set_cons (member : Tree) (rest : List Tree) :
    (set (member :: rest)).display =
      "\x7b" ++ ", ".intercalate (quotedItems [] (member :: rest)) ++ "\x7d" := by
  simp [display, quoted, quotedWithin]

/-- What is written in brackets begins with one. -/
theorem exists_tail_of_opening {opening inner closing : String} {head : Char} {rest : List Char}
    (chars : opening.toList = head :: rest) :
    Exists fun tail => (opening ++ inner ++ closing).toList = head :: tail := by
  rw [String.append_assoc, String.toList_append, chars, List.cons_append]
  exact ⟨_, rfl⟩

/-- So does what may be written as something met again. -/
theorem exists_tail_of_brackets (again : Bool) {short opening inner closing : String} {head : Char}
    {first rest : List Char} (shortChars : short.toList = head :: first)
    (chars : opening.toList = head :: rest) : Exists fun tail =>
      (if again then short else opening ++ inner ++ closing).toList = head :: tail := by
  split
  · exact ⟨first, shortChars⟩
  · exact exists_tail_of_opening chars

/-- What a compound value reads as: the empty set alone has no bracket in front. -/
theorem display_of_compound {tree : Tree} {kind : Compound}
    (compound : tree.identity = .error kind) : tree.display = "set()" ∨
      Exists fun head => Exists fun tail => tree.display.toList = head :: tail ∧
        (head = '[' ∨ head = '(' ∨ head = '\x7b') := by
  have begins {text : String} (head : Char) (known : head = '[' ∨ head = '(' ∨ head = '\x7b')
      (chars : Exists fun tail => text.toList = head :: tail) :
      Exists fun head => Exists fun tail => text.toList = head :: tail ∧
        (head = '[' ∨ head = '(' ∨ head = '\x7b') := by
    rcases chars with ⟨tail, chars⟩
    exact ⟨head, tail, chars, known⟩
  cases tree with
  | list items label =>
      exact Or.inr (begins '[' (by decide) (exists_tail_of_brackets _ (by rfl) (by rfl)))
  | tuple items label =>
      exact Or.inr (begins '(' (by decide) (exists_tail_of_brackets _ (by rfl) (by rfl)))
  | set members =>
      cases members with
      | nil => exact Or.inl rfl
      | cons member rest =>
          rw [display_set_cons]
          exact Or.inr (begins '\x7b' (by decide) (exists_tail_of_opening (by rfl)))
  | map entries label =>
      exact Or.inr (begins '\x7b' (by decide) (exists_tail_of_brackets _ (by rfl) (by rfl)))
  | dateTime value =>
      rw [identity] at compound
      split at compound <;> cases compound
  | _ => cases compound

theorem readsOther_compound {tree : Tree} {kind : Compound}
    (compound : tree.identity = .error kind) : ReadsOther tree.display := by
  rcases display_of_compound compound with isEmpty | ⟨head, tail, chars, rfl | rfl | rfl⟩
  · exact Or.inl (by simp [isEmpty, otherWords])
  all_goals exact readsOther_of_head chars (by decide)

theorem readsOther_display {tree : Tree} (notText : forall text, tree ≠ .str text) :
    ReadsOther tree.display := by
  cases tree with
  | str text => exact absurd rfl (notText text)
  | null => exact readsOther_of_head (by rfl) (by decide)
  | bool value => cases value <;> exact readsOther_of_head (by rfl) (by decide)
  | int value => exact readsOther_numeral (numeral_of_int value)
  | float value => exact readsOther_numeral value.text_spec.1
  | bytes content => exact readsOther_of_head String.toList_ofList (by decide)
  | date value =>
      have alone := readsOther_date value ""
      rwa [String.append_empty] at alone
  | dateTime value =>
      rw [display, DateTime.isoText, String.append_assoc, String.append_assoc]
      exact readsOther_date value.date _
  | list _ _ | tuple _ _ | set _ | map _ _ => exact readsOther_compound rfl

/-! ## Words -/

/-- Whether a text is read by no other key than itself. -/
def isWord (text : String) : Bool :=
  !otherWords.contains text && !text.toList.head?.any otherHeads.contains

theorem not_readsOther {word : String} (known : isWord word = true) : ¬ ReadsOther word := by
  simp only [isWord, Bool.and_eq_true, Bool.not_eq_true', List.contains_eq_mem,
    decide_eq_false_iff_not] at known
  rintro (isOther | ⟨head, begins, isHead⟩)
  · exact known.1 isOther
  · rw [begins, Option.any_some, ← Bool.not_eq_true, List.contains_iff_mem] at known
    exact known.2 isHead

/-- A key reads as a word just when it is the word. -/
theorem display_eq_iff {word : String} (known : isWord word = true) (key : Tree) :
    key.display = word ↔ key = .str word := by
  constructor
  · intro same
    by_cases isText : Exists fun text => key = .str text
    · rcases isText with ⟨text, rfl⟩
      rw [← same, display]
    · have other := readsOther_display (not_exists.mp isText)
      rw [same] at other
      exact absurd other (not_readsOther known)
  · rintro rfl
    rfl

theorem isText_respelledKey {word : String} (known : isWord word = true) (key : Tree) :
    (respelledKey key).isText word = key.isText word := by
  rw [respelledKey]
  split
  · rw [Bool.eq_iff_iff, isText_iff, isText_iff, str.injEq, display_eq_iff known]
  · rfl

section Lookup

variable {word : String} (entries : List (Tree × Tree))

theorem lookup?_respelled (known : isWord word = true) :
    lookup? word (entries.map respelledEntry) = (lookup? word entries).map respelled := by
  induction entries with
  | nil => rfl
  | cons entry rest ih =>
      rw [List.map_cons, respelledEntry, lookup?, lookup?, isText_respelledKey known, ih]
      split <;> rfl

theorem field_respelled (known : isWord word = true) :
    field word (entries.map respelledEntry) = (field word entries).respelled := by
  rw [field, field, lookup?_respelled entries known]
  cases lookup? word entries <;> rfl

theorem hasKey_respelled (known : isWord word = true) :
    hasKey word (entries.map respelledEntry) = hasKey word entries := by
  rw [hasKey, hasKey, lookup?_respelled entries known, Option.isSome_map]

/-- A respelled mapping has every text that a key reads as. -/
theorem hasKey_respelled_iff (name : String) :
    hasKey name (entries.map respelledEntry) = true ↔ name ∈ keyTexts entries := by
  rw [hasKey, Option.isSome_iff_exists, keyTexts]
  constructor
  · rintro ⟨value, found⟩
    rcases List.mem_map.mp (mem_of_lookup? found) with ⟨entry, member, same⟩
    have isName : respelledKey entry.1 = .str name := (Prod.mk.inj same).1
    have legible : entry.1.isLegible = true := by
      rw [← isLegible_respelledKey, isName]
      rfl
    rw [respelledKey_of_isLegible legible] at isName
    rw [← str.inj isName]
    exact List.mem_map_of_mem (List.mem_filter.mpr ⟨member, legible⟩)
  · intro member
    rcases List.mem_map.mp member with ⟨entry, kept, rfl⟩
    rcases List.mem_filter.mp kept with ⟨entryMember, legible⟩
    have respelled : (str entry.1.display, entry.2.respelled) ∈ entries.map respelledEntry := by
      rw [← respelledKey_of_isLegible legible]
      exact List.mem_map_of_mem entryMember
    exact Option.isSome_iff_exists.mp (hasKey_of_mem respelled)

theorem hasKey_respelled_of_hasKey {name : String} (found : hasKey name entries = true) :
    hasKey name (entries.map respelledEntry) = true := by
  rcases Option.isSome_iff_exists.mp found with ⟨value, looked⟩
  rw [hasKey_respelled_iff, keyTexts]
  have kept := List.mem_filter (p := (·.1.isLegible)).mpr ⟨mem_of_lookup? looked, rfl⟩
  exact List.mem_map_of_mem (f := (·.1.display)) kept

end Lookup

/-! ## Values -/

theorem respelled_eq_str_iff {tree : Tree} {text : String} :
    tree.respelled = .str text ↔ tree = .str text := by
  cases tree <;> simp [respelled]

theorem exists_map_of_respelled {tree : Tree} {entries : List (Tree × Tree)}
    {label : Option Label} (isMap : tree.respelled = .map entries label) :
    Exists fun own => tree = .map own label := by
  cases tree <;> simp_all [respelled]

theorem respelled_eq_null_iff {tree : Tree} : tree.respelled = .null ↔ tree = .null := by
  cases tree <;> simp [respelled]

theorem respelled_eq_bool_iff {tree : Tree} {value : Bool} :
    tree.respelled = .bool value ↔ tree = .bool value := by
  cases tree <;> simp [respelled]

@[simp] theorem isEmptyLike_respelled (tree : Tree) :
    tree.respelled.isEmptyLike = tree.isEmptyLike := by
  cases tree <;>
    simp [respelled, respelledItems_eq, respelledEntries_eq, isEmptyLike]

@[simp] theorem identity_respelled (tree : Tree) : tree.respelled.identity = tree.identity := by
  cases tree <;> rfl

@[simp] theorem optionalText_respelled (tree : Tree) :
    tree.respelled.optionalText = tree.optionalText := by
  cases tree <;> rfl

theorem respelled_of_identity {tree : Tree} {identity : Identity}
    (scalar : tree.identity = .ok identity) : tree.respelled = tree := by
  cases tree <;> first | rfl | cases scalar

end Tree
end RouteIR
