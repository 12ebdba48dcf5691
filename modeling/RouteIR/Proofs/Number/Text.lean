import RouteIR.Tree

namespace RouteIR

/-!
# How numbers are spelled

The text of a number is a word for what is not finite, or else digits that may have a point
among them and an exponent after them, with a sign in front of what is negative.  An
exponent always shows its sign.  An integer has digits only, and every floating-point number
has something else besides, so that no text is shared between the two spellings.
-/

/-- Digits, points, and letters for an exponent that its sign follows. -/
inductive Spelled : List Char -> Prop
  | nil : Spelled []
  | digit {char : Char} {rest : List Char} (isDigit : char.isDigit = true)
      (later : Spelled rest) : Spelled (char :: rest)
  | point {rest : List Char} (later : Spelled rest) : Spelled ('.' :: rest)
  | raised {rest : List Char} (later : Spelled rest) : Spelled ('e' :: '+' :: rest)
  | lowered {rest : List Char} (later : Spelled rest) : Spelled ('e' :: '-' :: rest)

/-- A digit and what is spelled after it. -/
inductive Magnitude : List Char -> Prop
  | intro {first : Char} {rest : List Char} (isDigit : first.isDigit = true)
      (later : Spelled rest) : Magnitude (first :: rest)

/-- The text of a number: a word, or a magnitude with a sign or without. -/
inductive Numeral : List Char -> Prop
  | nan : Numeral "nan".toList
  | infinite : Numeral "inf".toList
  | negativeInfinite : Numeral "-inf".toList
  | positive {text : List Char} (magnitude : Magnitude text) : Numeral text
  | negative {text : List Char} (magnitude : Magnitude text) : Numeral ('-' :: text)

/-- The characters in the text of an integer. -/
def IsPlain (char : Char) : Prop := char.isDigit = true ∨ char = '-'

namespace Spelled

theorem append_digits {digits rest : List Char}
    (areDigits : forall char, char ∈ digits -> char.isDigit = true) (later : Spelled rest) :
    Spelled (digits ++ rest) := by
  induction digits with
  | nil => exact later
  | cons first others ih =>
      have firstDigit := areDigits first List.mem_cons_self
      exact .digit firstDigit (ih fun char member => areDigits char (List.mem_cons_of_mem _ member))

theorem digits {digits : List Char}
    (areDigits : forall char, char ∈ digits -> char.isDigit = true) : Spelled digits := by
  rw [← List.append_nil digits]
  exact append_digits areDigits .nil

end Spelled

theorem Magnitude.of_digits {digits rest : List Char} (filled : digits ≠ [])
    (areDigits : forall char, char ∈ digits -> char.isDigit = true) (later : Spelled rest) :
    Magnitude (digits ++ rest) := by
  cases digits with
  | nil => exact absurd rfl filled
  | cons first others =>
      have firstDigit := areDigits first List.mem_cons_self
      refine .intro firstDigit (Spelled.append_digits ?_ later)
      exact fun char member => areDigits char (List.mem_cons_of_mem _ member)

theorem Magnitude.spelled {text : List Char} (magnitude : Magnitude text) : Spelled text := by
  cases magnitude with
  | intro isDigit later => exact .digit isDigit later

/-- The characters that numbers are written with. -/
def numeralAlphabet : List Char := "0123456789.+-einaf".toList

theorem mem_numeralAlphabet_of_isDigit {char : Char} (isDigit : char.isDigit = true) :
    char ∈ numeralAlphabet := by
  simp only [Char.isDigit, Bool.and_eq_true, decide_eq_true_eq, ge_iff_le] at isDigit
  have low : 48 ≤ char.toNat := isDigit.1
  have high : char.toNat ≤ 57 := isDigit.2
  have all : forall value : Fin 10, Char.ofNat (48 + value) ∈ numeralAlphabet := by decide
  have known := all ⟨char.toNat - 48, by omega⟩
  rwa [Nat.add_sub_cancel' low, Char.ofNat_toNat] at known

theorem Spelled.mem_numeralAlphabet {text : List Char} (spelled : Spelled text) {char : Char}
    (member : char ∈ text) : char ∈ numeralAlphabet := by
  induction spelled with
  | nil => cases member
  | digit isDigit _ ih =>
      rcases List.mem_cons.mp member with rfl | later
      · exact mem_numeralAlphabet_of_isDigit isDigit
      · exact ih later
  | point _ ih =>
      rcases List.mem_cons.mp member with rfl | later
      · decide
      · exact ih later
  | raised _ ih | lowered _ ih =>
      rcases List.mem_cons.mp member with rfl | later
      · decide
      · rcases List.mem_cons.mp later with rfl | last
        · decide
        · exact ih last

theorem Numeral.mem_numeralAlphabet {text : List Char} (numeral : Numeral text) {char : Char}
    (member : char ∈ text) : char ∈ numeralAlphabet := by
  have words {word : List Char} (known : (word.all fun char => numeralAlphabet.contains char) = true)
      (member : char ∈ word) : char ∈ numeralAlphabet :=
    List.contains_iff_mem.mp (List.all_eq_true.mp known char member)
  cases numeral with
  | nan => exact words (by decide) member
  | infinite => exact words (by decide) member
  | negativeInfinite => exact words (by decide) member
  | positive magnitude => exact magnitude.spelled.mem_numeralAlphabet member
  | negative magnitude =>
      rcases List.mem_cons.mp member with rfl | later
      · decide
      · exact magnitude.spelled.mem_numeralAlphabet later

theorem isDigit_of_toDigits {value : Nat} {char : Char} (member : char ∈ Nat.toDigits 10 value) :
    char.isDigit = true :=
  Nat.isDigit_of_mem_toDigits (by decide) (by decide) member

theorem isDigit_of_zeros {count : Nat} {char : Char} (member : char ∈ List.replicate count '0') :
    char.isDigit = true := by
  rw [List.eq_of_mem_replicate member]
  decide

/-! ## Integers -/

theorem toList_toString_of_nonneg {value : Int} (nonneg : 0 ≤ value) :
    (toString value).toList = Nat.toDigits 10 value.toNat := by
  rw [Int.toString_eq_repr, Int.repr_eq_if, if_pos nonneg, Nat.toList_repr]

theorem toList_toString_of_neg {value : Int} (negative : value < 0) :
    (toString value).toList = '-' :: Nat.toDigits 10 (-value).toNat := by
  rw [Int.toString_eq_repr, Int.repr_eq_if, if_neg (Int.not_le.mpr negative), String.toList_append,
    Nat.toList_repr]
  rfl

theorem magnitude_of_toDigits (value : Nat) : Magnitude (Nat.toDigits 10 value) := by
  rw [← List.append_nil (Nat.toDigits 10 value)]
  exact .of_digits Nat.toDigits_ne_nil (fun _ => isDigit_of_toDigits) .nil

theorem numeral_of_int (value : Int) : Numeral (toString value).toList := by
  by_cases nonneg : 0 ≤ value
  · rw [toList_toString_of_nonneg nonneg]
    exact .positive (magnitude_of_toDigits _)
  · rw [toList_toString_of_neg (Int.not_le.mp nonneg)]
    exact .negative (magnitude_of_toDigits _)

theorem isPlain_of_int {value : Int} {char : Char} (member : char ∈ (toString value).toList) :
    IsPlain char := by
  by_cases nonneg : 0 ≤ value
  · rw [toList_toString_of_nonneg nonneg] at member
    exact Or.inl (isDigit_of_toDigits member)
  · rw [toList_toString_of_neg (Int.not_le.mp nonneg)] at member
    rcases List.mem_cons.mp member with sign | digit
    · exact Or.inr sign
    · exact Or.inl (isDigit_of_toDigits digit)

theorem toDigits_injective {left right : Nat}
    (same : Nat.toDigits 10 left = Nat.toDigits 10 right) : left = right := by
  have leftValue := Nat.ofDigitChars_toDigits (by decide : 1 < 10) (by decide) (n := left)
  have rightValue := Nat.ofDigitChars_toDigits (by decide : 1 < 10) (by decide) (n := right)
  rw [same, rightValue] at leftValue
  exact leftValue.symm

/-- Different integers have different texts. -/
theorem toString_int_injective {left right : Int} (same : toString left = toString right) :
    left = right := by
  have apart {nonneg negative : Int} (first : 0 ≤ nonneg) (second : negative < 0) :
      toString nonneg ≠ toString negative := by
    intro same
    have member : '-' ∈ (toString nonneg).toList := by
      rw [same, toList_toString_of_neg second]
      exact List.mem_cons_self
    rw [toList_toString_of_nonneg first] at member
    exact absurd (isDigit_of_toDigits member) (by decide)
  have sameChars := congrArg String.toList same
  rcases Int.lt_or_le left 0 with leftSign | leftSign
  · rcases Int.lt_or_le right 0 with rightSign | rightSign
    · rw [toList_toString_of_neg leftSign, toList_toString_of_neg rightSign] at sameChars
      have sameValue := toDigits_injective (List.cons.inj sameChars).2
      omega
    · exact absurd same.symm (apart rightSign leftSign)
  · rcases Int.lt_or_le right 0 with rightSign | rightSign
    · exact absurd same (apart leftSign rightSign)
    · rw [toList_toString_of_nonneg leftSign, toList_toString_of_nonneg rightSign] at sameChars
      have sameValue := toDigits_injective sameChars
      omega

/-! ## Floating-point numbers -/

/-- Something in a text that is in no text of an integer. -/
def Marked (text : List Char) : Prop := Exists fun char => char ∈ text ∧ ¬ IsPlain char

theorem not_isPlain_of_letter {char : Char} (letter : char ∈ ['.', 'e', 'n']) : ¬ IsPlain char := by
  simp only [List.mem_cons, List.not_mem_nil, or_false] at letter
  rcases letter with rfl | rfl | rfl <;> rintro (digit | sign) <;> contradiction

theorem marked_of_mem {text : List Char} (char : Char) (letter : char ∈ ['.', 'e', 'n'])
    (member : char ∈ text) : Marked text :=
  ⟨char, member, not_isPlain_of_letter letter⟩

theorem Spelled.exponent {digits : List Char}
    (areDigits : forall char, char ∈ digits -> char.isDigit = true) (negative : Prop)
    [Decidable negative] : Spelled ('e' :: (if negative then '-' else '+') :: digits) := by
  split
  · exact .lowered (.digits areDigits)
  · exact .raised (.digits areDigits)

/-- The digits of an exponent, of which there are at least two. -/
theorem isDigit_of_padded {power : List Char}
    (areDigits : forall char, char ∈ power -> char.isDigit = true) (char : Char)
    (member : char ∈ if power.length < 2 then '0' :: power else power) : char.isDigit = true := by
  split at member
  · rcases List.mem_cons.mp member with rfl | digit
    · decide
    · exact areDigits char digit
  · exact areDigits char member

/-- A decimal is laid out with a point or an exponent. -/
theorem Decimal.layout_spec (value : Decimal) :
    Magnitude value.layout.toList ∧ Marked value.layout.toList := by
  have areDigits (char : Char) (member : char ∈ Nat.toDigits 10 value.coefficient) :
      char.isDigit = true := isDigit_of_toDigits member
  have filled : Nat.toDigits 10 value.coefficient ≠ [] := Nat.toDigits_ne_nil
  unfold layout
  dsimp only
  generalize Nat.toDigits 10 value.coefficient = digits at areDigits filled
  split
  · rw [String.toList_ofList]
    generalize (digits.length : Int) + value.exponent - 1 = exponent
    refine ⟨?_, marked_of_mem 'e' (by simp) (by simp)⟩
    have powerDigits (char : Char) (member : char ∈ Nat.toDigits 10 exponent.natAbs) :
        char.isDigit = true := isDigit_of_toDigits member
    have power := Spelled.exponent (isDigit_of_padded powerDigits) (exponent < 0)
    split
    · next leading second others _ =>
        refine .intro (areDigits leading List.mem_cons_self) (.point ?_)
        refine Spelled.append_digits ?_ power
        exact fun char member => areDigits char (List.mem_cons_of_mem _ member)
    · exact .of_digits filled areDigits power
  · split
    · rw [String.toList_ofList]
      refine ⟨.intro (by decide) (.point ?_), marked_of_mem '.' (by simp) (by simp)⟩
      exact Spelled.append_digits (fun _ => isDigit_of_zeros) (.digits areDigits)
    · split
      · rw [String.toList_ofList, List.append_assoc]
        refine ⟨.of_digits filled areDigits ?_, marked_of_mem '.' (by simp) (by simp)⟩
        refine Spelled.append_digits (fun _ => isDigit_of_zeros) (.point ?_)
        exact .digit (by decide) .nil
      · rw [String.toList_ofList]
        refine ⟨.of_digits ?_ ?_ (.point (.digits ?_)), marked_of_mem '.' (by simp) (by simp)⟩
        · rw [Ne, List.take_eq_nil_iff, not_or]
          exact ⟨by omega, filled⟩
        · exact fun char member => areDigits char (List.mem_of_mem_take member)
        · exact fun char member => areDigits char (List.mem_of_mem_drop member)

/-- The text of a floating-point number has a word, a point or an exponent. -/
theorem Binary64.text_spec (value : Binary64) :
    Numeral value.text.toList ∧ Marked value.text.toList := by
  cases value with
  | nan origin => exact ⟨.nan, marked_of_mem 'n' (by simp) (by simp [text])⟩
  | infinity negative =>
      cases negative with
      | false => exact ⟨.infinite, marked_of_mem 'n' (by simp) (by decide)⟩
      | true => exact ⟨.negativeInfinite, marked_of_mem 'n' (by simp) (by decide)⟩
  | finite negative significand shift =>
      have magnitude (text : String) (isMagnitude : text =
          if significand = 0 then "0.0" else (Decimal.shortest significand shift).layout) :
          Magnitude text.toList ∧ Marked text.toList := by
        rw [isMagnitude]
        split
        · exact ⟨.intro (by decide) (.point (.digit (by decide) .nil)),
            marked_of_mem '.' (by simp) (by decide)⟩
        · exact Decimal.layout_spec _
      rcases magnitude _ rfl with ⟨spelled, char, member, special⟩
      rw [text]
      cases negative with
      | false => exact ⟨.positive spelled, char, member, special⟩
      | true =>
          rw [if_pos rfl, String.toList_append]
          exact ⟨.negative spelled, char, List.mem_cons_of_mem _ member, special⟩

namespace Number

theorem numeral_text (number : Number) : Numeral number.text.toList := by
  cases number with
  | int value => exact numeral_of_int value
  | float value => exact value.text_spec.1

/-- No integer has the text of a floating-point number. -/
theorem text_int_ne_float (integer : Int) (value : Binary64) :
    (int integer).text ≠ (float value).text := by
  intro same
  rcases value.text_spec.2 with ⟨char, member, special⟩
  have inInteger : char ∈ (int integer).text.toList := by
    rw [same]
    exact member
  exact special (isPlain_of_int inInteger)

end Number
end RouteIR
