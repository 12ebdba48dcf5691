import RouteIR.Proofs.Json.Closing
import RouteIR.Proofs.Json.Numeral
import RouteIR.Proofs.Json.Text
import RouteIR.Proofs.Keyed

namespace RouteIR
namespace Json

/-!
# Values that are read back

A value is read back from its text when it has one, its numbers have the form that reading gives
them and no object repeats a key.  What is read stops where the value ends, since a comma or a new
line follows, and the reader has as many steps as there are characters, which is more than it
takes.
-/

/-- The values that their texts determine. -/
inductive Faithful : Json -> Prop
  | null : Faithful null
  | bool (value : Bool) : Faithful (bool value)
  | int (value : Int) : Faithful (int value)
  | float {value : Binary64} (literal : value.origin = 0) (canonical : value.Canonical) :
      Faithful (float value)
  | str (text : String) : Faithful (str text)
  | array {items : List Json} (faithful : forall item, item ∈ items -> Faithful item) :
      Faithful (array items)
  | object {members : List (String × Json)} (distinct : (Keyed.keys members).Nodup)
      (faithful : forall member, member ∈ members -> Faithful member.2) :
      Faithful (object members)

/-! ## Values with a text -/

theorem areLegible_iff {items : List Json} :
    areLegible items = true ↔ forall item, item ∈ items -> item.isLegible = true := by
  induction items with
  | nil => exact iff_of_true rfl nofun
  | cons item rest ih => rw [areLegible, Bool.and_eq_true, ih, List.forall_mem_cons]

theorem membersAreLegible_iff {members : List (String × Json)} :
    membersAreLegible members = true ↔
      forall member, member ∈ members -> member.2.isLegible = true := by
  induction members with
  | nil => exact iff_of_true rfl nofun
  | cons member rest ih => rw [membersAreLegible, Bool.and_eq_true, ih, List.forall_mem_cons]

theorem dump?_eq_some_iff {value : Json} {text : String} :
    dump? value = some text ↔ value.isLegible = true ∧ value.render = text := by
  rw [dump?]
  split
  · next legible => simp [legible]
  · next illegible => simp [illegible]

theorem dump?_eq_none_iff {value : Json} : dump? value = none ↔ value.isLegible = false := by
  simp [dump?]

/-! ## Where a value starts -/

/-- No blank, no bracket that closes an array, and no byte order mark. -/
def Opens (char : Char) : Prop := isSpace char = false ∧ char ≠ ']' ∧ char ≠ '\ufeff'

instance : DecidablePred Opens :=
  fun char => inferInstanceAs (Decidable (isSpace char = false ∧ char ≠ ']' ∧ char ≠ '\ufeff'))

/-- The text of a value starts with a character that cannot stand between values. -/
def Starts (chars : List Char) : Prop :=
  Exists fun first => Exists fun rest => chars = first :: rest ∧ Opens first

theorem Starts.cons {first : Char} (opens : Opens first) (rest : List Char) :
    Starts (first :: rest) :=
  ⟨first, rest, rfl, opens⟩

theorem Numeral.ne_nil {text : List Char} (numeral : Numeral text) : text ≠ [] := by
  cases numeral with
  | nan | infinite | negativeInfinite => decide
  | positive magnitude =>
      cases magnitude
      exact List.cons_ne_nil _ _
  | negative magnitude => exact List.cons_ne_nil _ _

theorem Starts.of_numeral {text : List Char} (numeral : Numeral text) : Starts text := by
  rcases List.exists_cons_of_ne_nil (Numeral.ne_nil numeral) with ⟨first, rest, rfl⟩
  have all : numeralAlphabet.all (fun char => decide (Opens char)) = true := by decide
  have opens := List.all_eq_true.mp all first (numeral.mem_numeralAlphabet List.mem_cons_self)
  exact .cons (of_decide_eq_true opens) rest

theorem starts_write (level : Nat) (value : Json) : Starts (write level value) := by
  cases value with
  | null => exact .cons (by decide) _
  | bool value => cases value <;> exact .cons (by decide) _
  | int value => exact .of_numeral (numeral_of_int value)
  | float value =>
      cases value with
      | nan origin => exact .cons (by decide) _
      | infinity negative => cases negative <;> exact .cons (by decide) _
      | finite negative significand shift =>
          exact .of_numeral (Number.numeral_text (.float (.finite negative significand shift)))
  | str text => exact .cons (by decide) _
  | array items => cases items <;> exact .cons (by decide) _
  | object members =>
      cases members with
      | nil => exact .cons (by decide) _
      | cons member rest => exact .cons (by decide) _

theorem Starts.skipSpace {chars : List Char} (starts : Starts chars) (rest : List Char) :
    Json.skipSpace (chars ++ rest) = chars ++ rest := by
  rcases starts with ⟨first, others, rfl, visible, _, _⟩
  rw [Json.skipSpace, List.cons_append, List.dropWhile_cons, visible]
  rfl

theorem skipSpace_newline (level : Nat) (chars : List Char) :
    skipSpace (newline level ++ chars) = skipSpace chars := by
  have blanks (count : Nat) :
      (List.replicate count ' ' ++ chars).dropWhile isSpace = chars.dropWhile isSpace := by
    induction count with
    | zero => rfl
    | succ count ih =>
        rw [List.replicate_succ, List.cons_append, List.dropWhile_cons]
        exact ih
  exact blanks (2 * level)

theorem follows_newline (level : Nat) (rest : List Char) : Follows (newline level ++ rest) :=
  .newline _

/-! ## Words and numbers -/

theorem leadingDigits_front {chars : List Char} (filled : leadingDigits chars ≠ []) :
    Exists fun first => Exists fun rest => chars = first :: rest ∧ isDigit first = true := by
  cases chars with
  | nil => exact absurd rfl filled
  | cons first rest =>
      refine ⟨first, rest, rfl, ?_⟩
      by_contra other
      unfold leadingDigits at filled
      split at filled
      · next same =>
          rw [(List.cons.inj same).1] at other
          exact other (by decide)
      · rw [List.takeWhile_cons, if_neg other] at filled
        exact filled rfl

/-- A number starts with a digit, or with a sign and a digit. -/
theorem readNumber?_front {chars : List Char} {result : Json × List Char}
    (read : readNumber? chars = some result) :
    Exists fun first => Exists fun rest => isDigit first = true ∧
      (chars = first :: rest ∨ chars = '-' :: first :: rest) := by
  have filled : leadingDigits (splitSign chars).2 ≠ [] := by
    intro none
    rw [readNumber?] at read
    dsimp only at read
    rw [none] at read
    cases read
  rcases leadingDigits_front filled with ⟨first, rest, front, digit⟩
  refine ⟨first, rest, digit, ?_⟩
  unfold splitSign at front
  split at front
  · exact .inr (by rw [← front])
  · exact .inl front

theorem ne_of_isDigit {first letter : Char} (digit : isDigit first = true)
    (other : isDigit letter = false) : first ≠ letter := by
  intro same
  rw [same, other] at digit
  cases digit

theorem find?_words_of_digit {first : Char} (digit : isDigit first = true) (rest : List Char) :
    words.find? (fun word => word.1.isPrefixOf (first :: rest)) = none ∧
      words.find? (fun word => word.1.isPrefixOf ('-' :: first :: rest)) = none := by
  have other (letter : Char) (notDigit : isDigit letter = false) : (letter == first) = false :=
    beq_eq_false_iff_ne.mpr (ne_of_isDigit digit notDigit).symm
  simp [words, List.isPrefixOf, other 'n' (by decide), other 't' (by decide),
    other 'f' (by decide), other 'N' (by decide), other 'I' (by decide), other '-' (by decide)]

/-- No word is a number, and no number is in quotes or in brackets. -/
theorem readValue_number (closing : Closing) (fuel : Nat) {chars : List Char}
    {result : Json × List Char} (read : readNumber? chars = some result)
    (legible : result.1.isLegible = true) : readValue closing (fuel + 1) chars = .ok result := by
  rcases readNumber?_front read with ⟨first, rest, digit, front⟩
  have noWord : words.find? (fun word => word.1.isPrefixOf chars) = none := by
    rcases front with rfl | rfl
    · exact (find?_words_of_digit digit rest).1
    · exact (find?_words_of_digit digit rest).2
  have scalar : readScalar chars = .ok result := by
    rw [readScalar, noWord, read]
    exact if_pos legible
  have opening (mark : Char) (notDigit : isDigit mark = false) (notSign : '-' ≠ mark)
      (others : List Char) : chars ≠ mark :: others := by
    intro same
    rcases front with front | front
    · exact ne_of_isDigit digit notDigit (List.cons.inj (front.symm.trans same)).1
    · exact notSign (List.cons.inj (front.symm.trans same)).1
  rw [readValue_other, scalar]
  intro mark others same member
  simp only [List.mem_cons, List.not_mem_nil, or_false] at member
  rcases member with rfl | rfl | rfl
  · exact opening '"' (by decide) (by decide) others same
  · exact opening '\x7b' (by decide) (by decide) others same
  · exact opening '[' (by decide) (by decide) others same

/-! ## Values -/

/-- The value is read from its text, at any level and with enough steps. -/
def ReadsBack (value : Json) : Prop :=
  forall level fuel rest, Follows rest -> (write level value).length ≤ fuel ->
    readValue .strict (fuel + 1) (write level value ++ rest) = .ok (value, rest)

theorem ReadsBack.bool (value : Bool) : ReadsBack (bool value) := by
  intro level fuel rest follows enough
  cases value with
  | false => rfl
  | true => rfl

theorem ReadsBack.int {value : Int} (legible : (int value).isLegible = true) :
    ReadsBack (int value) := by
  intro level fuel rest follows enough
  exact readValue_number .strict fuel (readNumber?_int value follows) legible

theorem ReadsBack.float {value : Binary64} (literal : value.origin = 0)
    (canonical : value.Canonical) : ReadsBack (float value) := by
  intro level fuel rest follows enough
  cases value with
  | nan origin =>
      rw [Binary64.origin] at literal
      rw [literal]
      rfl
  | infinity negative => cases negative <;> rfl
  | finite negative significand shift =>
      exact readValue_number .strict fuel (readNumber?_finite canonical follows) rfl

theorem ReadsBack.str (text : String) : ReadsBack (str text) := by
  intro level fuel rest follows enough
  rw [write, writeString, List.cons_append, List.cons_append, List.append_assoc, readValue]
  simp only [List.cons_append, List.nil_append, readString_writeString]
  rfl

theorem skipSpace_comma (chars : List Char) : skipSpace (',' :: chars) = ',' :: chars := rfl

/-- Items are read one after the other up to the bracket, which stands on a line of its own. -/
theorem readItems_writeItems {first : Json} {items : List Json}
    (readsBack : forall item, item ∈ first :: items -> ReadsBack item) (level outer : Nat)
    {fuel : Nat} (rest : List Char)
    (enough : (write level first).length + (writeItems level items).length ≤ fuel) :
    readItems .strict (fuel + 2)
        (write level first ++ (writeItems level items ++ (newline outer ++ ']' :: rest))) =
      .ok (first :: items, rest) := by
  induction items generalizing first fuel with
  | nil =>
      have read := readsBack first List.mem_cons_self level fuel _
        (follows_newline outer (']' :: rest)) (by omega)
      rw [writeItems, List.nil_append, readItems, read]
      simp only [bind, Except.bind, skipSpace_newline]
      rfl
  | cons second items ih =>
      have text (after : List Char) : writeItems level (second :: items) ++ after =
          ',' :: (newline level ++ (write level second ++ (writeItems level items ++ after))) := by
        simp only [writeItems, List.append_assoc, List.cons_append]
      have count := congrArg List.length (text [])
      simp only [List.append_nil, List.length_cons, List.length_append] at count
      rcases Nat.exists_eq_add_one_of_ne_zero (n := fuel) (by omega) with ⟨fewer, rfl⟩
      have read (after : List Char) := readsBack first List.mem_cons_self level (fewer + 1) _
        (.comma after) (by omega)
      have shorter : (write level second).length + (writeItems level items).length ≤ fewer := by
        omega
      have later := ih (fun item member => readsBack item (List.mem_cons_of_mem _ member)) shorter
      rw [text, readItems, read]
      simp only [bind, Except.bind, skipSpace_comma, skipSpace_newline,
        (starts_write level second).skipSpace, later]

theorem readMembers_writeMembers {key : String} {first : Json} {members : List (String × Json)}
    (readsBack : forall member, member ∈ (key, first) :: members -> ReadsBack member.2)
    (level outer : Nat) {fuel : Nat} (rest : List Char)
    (enough : (write level first).length + (writeMembers level members).length ≤ fuel) :
    readMembers .strict (fuel + 2)
        (writeString key ++ (':' :: ' ' :: (write level first ++
          (writeMembers level members ++ (newline outer ++ '\x7d' :: rest))))) =
      .ok ((key, first) :: members, rest) := by
  have opening (key : String) (after : List Char) : writeString key ++ after =
      '"' :: (key.toList.flatMap writeChar ++ '"' :: after) := by
    simp only [writeString, List.append_assoc, List.cons_append, List.nil_append]
  have colon (chars : List Char) : skipSpace (':' :: chars) = ':' :: chars := rfl
  have blank (chars : List Char) : skipSpace (' ' :: chars) = skipSpace chars := rfl
  induction members generalizing key first fuel with
  | nil =>
      have reads : ReadsBack first := readsBack (key, first) List.mem_cons_self
      have read := reads level fuel _ (follows_newline outer ('\x7d' :: rest)) (by omega)
      rw [opening, writeMembers, List.nil_append, readMembers]
      simp only [bind, Except.bind, readString_writeString, colon, blank,
        (starts_write level first).skipSpace, read, skipSpace_newline]
      rfl
  | cons second members ih =>
      have text (after : List Char) : writeMembers level (second :: members) ++ after =
          ',' :: (newline level ++ (writeString second.1 ++ (':' :: ' ' ::
            (write level second.2 ++ (writeMembers level members ++ after))))) := by
        simp only [writeMembers, List.append_assoc, List.cons_append, List.nil_append]
      have count := congrArg List.length (text [])
      simp only [List.append_nil, List.length_cons, List.length_append] at count
      rcases Nat.exists_eq_add_one_of_ne_zero (n := fuel) (by omega) with ⟨fewer, rfl⟩
      have reads : ReadsBack first := readsBack (key, first) List.mem_cons_self
      have read (after : List Char) := reads level (fewer + 1) _ (.comma after) (by omega)
      have shorter : (write level second.2).length + (writeMembers level members).length ≤ fewer := by
        omega
      have later := ih (fun member among => readsBack member (List.mem_cons_of_mem _ among)) shorter
      have quoteVisible (after : List Char) :
          skipSpace (writeString second.1 ++ after) = writeString second.1 ++ after := by
        rw [opening]
        rfl
      rw [opening, text, readMembers]
      simp only [bind, Except.bind, readString_writeString, colon, blank,
        (starts_write level first).skipSpace, read, skipSpace_comma, skipSpace_newline,
        quoteVisible, later]

/-- An array that is not closed at once is read item by item. -/
theorem readValue_bracket (closing : Closing) (fuel : Nat) {chars after : List Char}
    (starts : Starts chars) (level : Nat) :
    readValue closing (fuel + 1) ('[' :: (newline level ++ (chars ++ after))) =
      (readItems closing fuel (chars ++ after)).bind fun read => .ok (array read.1, read.2) := by
  rw [readValue]
  dsimp only
  rw [skipSpace_newline, starts.skipSpace]
  rcases starts with ⟨first, others, rfl, _, opens, _⟩
  rw [List.cons_append]
  split
  · next same => exact absurd (List.cons.inj same).1 opens
  · rfl

theorem readValue_brace (closing : Closing) (fuel level : Nat) (key : String) (after : List Char) :
    readValue closing (fuel + 1) ('\x7b' :: (newline level ++ (writeString key ++ after))) =
      (readMembers closing fuel (writeString key ++ after)).bind fun read =>
        (closing read.1).bind fun value => .ok (value, read.2) := by
  rw [readValue]
  dsimp only
  rw [skipSpace_newline]
  rfl

theorem ReadsBack.array {items : List Json}
    (readsBack : forall item, item ∈ items -> ReadsBack item) : ReadsBack (array items) := by
  intro level fuel rest follows enough
  cases items with
  | nil => rfl
  | cons first items =>
      have text : write level (.array (first :: items)) ++ rest =
          '[' :: (newline (level + 1) ++ (write (level + 1) first ++
            (writeItems (level + 1) items ++ (newline level ++ ']' :: rest)))) := by
        simp only [write, List.append_assoc, List.cons_append, List.nil_append]
      have count := congrArg List.length text
      simp only [List.length_cons, List.length_append] at count
      rcases Nat.exists_eq_add_of_le' (m := 2) (n := fuel) (by omega) with ⟨fewer, rfl⟩
      rw [text, readValue_bracket _ _ (starts_write _ _),
        readItems_writeItems readsBack _ _ _ (by omega)]
      rfl

theorem ReadsBack.object {members : List (String × Json)} (distinct : (Keyed.keys members).Nodup)
    (readsBack : forall member, member ∈ members -> ReadsBack member.2) :
    ReadsBack (object members) := by
  intro level fuel rest follows enough
  have closed : Closing.strict members = .ok (.object members) := by
    have none := (Keyed.firstRepeated?_eq_none_iff [] members).mpr
      ⟨distinct, fun _ _ => List.not_mem_nil⟩
    rw [Closing.strict, none]
  cases members with
  | nil => rfl
  | cons first members =>
      have text : write level (.object (first :: members)) ++ rest =
          '\x7b' :: (newline (level + 1) ++ (writeString first.1 ++ (':' :: ' ' ::
            (write (level + 1) first.2 ++ (writeMembers (level + 1) members ++
              (newline level ++ '\x7d' :: rest)))))) := by
        simp only [write, List.append_assoc, List.cons_append, List.nil_append]
      have count := congrArg List.length text
      simp only [List.length_cons, List.length_append] at count
      rcases Nat.exists_eq_add_of_le' (m := 2) (n := fuel) (by omega) with ⟨fewer, rfl⟩
      rw [text, readValue_brace, readMembers_writeMembers readsBack _ _ _ (by omega)]
      simp only [Except.bind, closed]

theorem Faithful.readsBack {value : Json} (faithful : Faithful value)
    (legible : value.isLegible = true) : ReadsBack value := by
  induction faithful with
  | null => exact fun _ _ _ _ _ => rfl
  | bool value => exact .bool value
  | int value => exact .int legible
  | float literal canonical => exact .float literal canonical
  | str text => exact .str text
  | array _ ih =>
      have each := areLegible_iff.mp legible
      exact .array fun item member => ih item member (each item member)
  | object distinct _ ih =>
      have each := membersAreLegible_iff.mp legible
      exact .object distinct fun member among => ih member among (each member among)

/-- What is rendered on a line is read as the value. -/
theorem Faithful.read_render {value : Json} (faithful : Faithful value)
    (legible : value.isLegible = true) : read .strict (render value ++ "\n") = .ok value := by
  have text : (render value ++ "\n").toList = write 0 value ++ ['\n'] := by
    rw [render, String.toList_append, String.toList_ofList]
    rfl
  have starts := starts_write 0 value
  have found := (faithful.readsBack legible) 0 (write 0 value ++ ['\n']).length ['\n'] (.newline [])
    (by rw [List.length_append]; omega)
  have skipped := starts.skipSpace ['\n']
  rw [read, text, readChars.eq_def]
  split
  · next same =>
      rcases starts with ⟨first, others, written, _, _, noMark⟩
      rw [written] at same
      exact absurd (List.cons.inj same).1 noMark
  · rw [skipped, found]
    rfl

end Json
end RouteIR
