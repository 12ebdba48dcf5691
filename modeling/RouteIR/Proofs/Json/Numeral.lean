import Mathlib.Data.List.Induction
import RouteIR.Json.Reader
import RouteIR.Json.Writer
import RouteIR.Proofs.Number.Decimal
import RouteIR.Proofs.Number.Text

namespace RouteIR
namespace Json

/-!
# Numbers that are read back

The digits of an integer are read as the integer, and the four layouts of a decimal as the
coefficient and the exponent that were laid out, up to zeros that move from one to the other.
In a text that is written here a number is followed by a comma or a new line, where it ends.
-/

/-- What follows a value in a text: the next one, or the end of the line. -/
inductive Follows : List Char -> Prop
  | comma (rest : List Char) : Follows (',' :: rest)
  | newline (rest : List Char) : Follows ('\n' :: rest)

/-- A run of digits as a number starts with: a single zero, or no zero in front. -/
inductive Leading : List Char -> Prop
  | zero : Leading ['0']
  | digits {first : Char} {rest : List Char} (nonzero : first ≠ '0')
      (areDigits : forall char, char ∈ first :: rest -> isDigit char = true) :
      Leading (first :: rest)

/-- The run of digits does not go on. -/
def Stops (after : List Char) : Prop := forall char, after.head? = some char -> isDigit char = false

theorem Stops.cons (char : Char) (other : isDigit char = false) (rest : List Char) :
    Stops (char :: rest) := by
  intro first isFirst
  rwa [← Option.some.inj isFirst]

theorem Follows.stops {rest : List Char} (follows : Follows rest) : Stops rest := by
  cases follows with
  | comma rest => exact Stops.cons ',' (by decide) rest
  | newline rest => exact Stops.cons '\n' (by decide) rest

theorem isDigit_eq (char : Char) : isDigit char = char.isDigit := by
  rw [isDigit, Char.isDigit, Bool.eq_iff_iff]
  simp only [Bool.and_eq_true, decide_eq_true_eq]
  exact Iff.rfl

theorem isDigit_toDigits {value : Nat} {char : Char} (member : char ∈ Nat.toDigits 10 value) :
    isDigit char = true := by
  rw [isDigit_eq]
  exact isDigit_of_toDigits member

theorem isDigit_zeros {count : Nat} {char : Char} (member : char ∈ List.replicate count '0') :
    isDigit char = true := by
  rw [isDigit_eq]
  exact isDigit_of_zeros member

theorem isDigit_zero (char : Char) (member : char ∈ ['0']) : isDigit char = true := by
  rw [List.mem_singleton.mp member]
  decide

theorem takeWhile_digits {digits after : List Char}
    (areDigits : forall char, char ∈ digits -> isDigit char = true) (stops : Stops after) :
    (digits ++ after).takeWhile isDigit = digits ∧
      (digits ++ after).dropWhile isDigit = after := by
  induction digits with
  | nil =>
      cases after with
      | nil => exact ⟨rfl, rfl⟩
      | cons first rest =>
          have other : isDigit first = false := stops first rfl
          simp [other]
  | cons first rest ih =>
      have isFirst := areDigits first List.mem_cons_self
      rcases ih fun char member => areDigits char (List.mem_cons_of_mem _ member) with
        ⟨taken, dropped⟩
      rw [List.cons_append]
      exact ⟨by rw [List.takeWhile_cons, if_pos isFirst, taken],
        by rw [List.dropWhile_cons, if_pos isFirst, dropped]⟩

/-! ## The value of digits -/

theorem digitsValue_eq (digits : List Char) :
    digitsValue digits = Nat.ofDigitChars 10 digits 0 := by
  rw [digitsValue, Nat.ofDigitChars]
  congr 1
  funext value digit
  rw [Nat.mul_comm]

theorem digitsValue_append (left right : List Char) :
    digitsValue (left ++ right) = digitsValue left * 10 ^ right.length + digitsValue right := by
  induction right using List.reverseRecOn with
  | nil => simp [digitsValue]
  | append_singleton rest last ih =>
      have step (digits : List Char) :
          digitsValue (digits ++ [last]) = digitsValue digits * 10 + (last.toNat - '0'.toNat) := by
        rw [digitsValue, List.foldl_append]
        rfl
      rw [← List.append_assoc, step, step, ih, List.length_append, List.length_singleton,
        Nat.pow_succ, Nat.add_mul, Nat.mul_assoc, Nat.add_assoc]

theorem digitsValue_toDigits (value : Nat) : digitsValue (Nat.toDigits 10 value) = value := by
  rw [digitsValue_eq]
  exact Nat.ofDigitChars_toDigits (by decide) (by decide)

theorem digitsValue_zeros (count : Nat) : digitsValue (List.replicate count '0') = 0 := by
  induction count with
  | zero => rfl
  | succ count ih =>
      rw [List.replicate_succ', digitsValue_append, ih]
      rfl

/-- No zero stands in front of the digits of a positive number. -/
theorem leading_toDigits {value : Nat} (positive : 0 < value) :
    exists first rest, Nat.toDigits 10 value = first :: rest ∧ first ≠ '0' := by
  induction value using Nat.strongRecOn with
  | ind value ih =>
      by_cases small : value < 10
      · rw [Nat.toDigits_of_lt_base small]
        refine ⟨_, [], rfl, ?_⟩
        have all : forall digit : Fin 10, 0 < digit.val -> Nat.digitChar digit ≠ '0' := by decide
        exact all ⟨value, small⟩ positive
      · have large : 10 ≤ value := Nat.not_lt.mp small
        have smaller : value / 10 < value := by omega
        have shorter : 0 < value / 10 := by omega
        rcases ih _ smaller shorter with ⟨first, rest, spelled, nonzero⟩
        refine ⟨first, rest ++ [Nat.digitChar (value % 10)], ?_, nonzero⟩
        rw [Nat.toDigits_of_base_le (by decide) large, spelled]
        rfl

theorem Leading.filled {digits : List Char} (leading : Leading digits) : digits ≠ [] := by
  cases leading with
  | zero => exact List.cons_ne_nil _ _
  | digits nonzero areDigits => exact List.cons_ne_nil _ _

theorem Leading.ofNat (value : Nat) : Leading (Nat.toDigits 10 value) := by
  by_cases positive : 0 < value
  · rcases leading_toDigits positive with ⟨first, rest, spelled, nonzero⟩
    have areDigits (char : Char) (member : char ∈ Nat.toDigits 10 value) : isDigit char = true :=
      isDigit_toDigits member
    rw [spelled] at areDigits ⊢
    exact .digits nonzero areDigits
  · rw [Nat.eq_zero_of_not_pos positive]
    exact .zero

/-! ## Reading -/

/-- The sign in front of what is negative. -/
def sign (negative : Bool) : List Char := if negative then ['-'] else []

theorem splitSign_sign (negative : Bool) {digits : List Char} (leading : Leading digits)
    (after : List Char) :
    splitSign (sign negative ++ (digits ++ after)) = (negative, digits ++ after) := by
  cases negative with
  | true => rfl
  | false =>
      cases leading with
      | zero => rfl
      | digits nonzero areDigits =>
          have isFirst := areDigits _ List.mem_cons_self
          dsimp only [sign, List.cons_append, Bool.false_eq_true, if_false, List.nil_append]
          unfold splitSign
          split
          · next rest same =>
              rw [(List.cons.inj same).1] at isFirst
              exact absurd isFirst (by decide)
          · rfl

theorem leadingDigits_append {digits after : List Char} (leading : Leading digits)
    (stops : Stops after) : leadingDigits (digits ++ after) = digits := by
  cases leading with
  | zero => rfl
  | digits nonzero areDigits =>
      unfold leadingDigits
      split
      · next same => exact absurd (List.cons.inj same).1 nonzero
      · exact (takeWhile_digits areDigits stops).1

theorem readNumber?_signed (negative : Bool) {digits after : List Char} (leading : Leading digits)
    (stops : Stops after) :
    readNumber? (sign negative ++ (digits ++ after)) = some (numberFrom negative digits after) := by
  have notEmpty : digits.isEmpty = false := by
    rw [List.isEmpty_eq_false_iff]
    exact leading.filled
  unfold readNumber?
  rw [splitSign_sign negative leading]
  dsimp only
  rw [leadingDigits_append leading stops, notEmpty, List.drop_left]
  rfl

theorem splitFraction_point {fraction after : List Char} (filled : fraction ≠ [])
    (areDigits : forall char, char ∈ fraction -> isDigit char = true) (stops : Stops after) :
    splitFraction ('.' :: (fraction ++ after)) = (fraction, after) := by
  cases fraction with
  | nil => exact absurd rfl filled
  | cons first rest =>
      have isFirst := areDigits first List.mem_cons_self
      rcases takeWhile_digits (fun char member => areDigits char (List.mem_cons_of_mem _ member))
        stops with ⟨taken, dropped⟩
      rw [List.cons_append, splitFraction, if_pos isFirst, taken, dropped]

theorem splitExponent?_signed (negative : Bool) {power after : List Char} (filled : power ≠ [])
    (areDigits : forall char, char ∈ power -> isDigit char = true) (stops : Stops after) :
    splitExponent? ('e' :: (if negative then '-' else '+') :: (power ++ after)) =
      some (if negative then -(digitsValue power : Int) else digitsValue power, after) := by
  rcases takeWhile_digits areDigits stops with ⟨taken, dropped⟩
  have notEmpty : power.isEmpty = false := by
    rw [List.isEmpty_eq_false_iff]
    exact filled
  cases negative with
  | true =>
      simp only [splitExponent?, if_true, true_or, taken, dropped, notEmpty, Bool.false_eq_true,
        if_false]
  | false =>
      simp only [splitExponent?, if_true, true_or, taken, dropped, notEmpty, Bool.false_eq_true,
        if_false]

namespace Follows

theorem splitExponent? {rest : List Char} (follows : Follows rest) :
    Json.splitExponent? rest = none := by
  cases follows with
  | comma rest => rfl
  | newline rest => rfl

theorem splitFraction {rest : List Char} (follows : Follows rest) :
    Json.splitFraction rest = ([], rest) := by
  cases follows with
  | comma rest => rfl
  | newline rest => rfl

/-- Digits alone are an integer. -/
theorem numberFrom_digits {rest : List Char} (follows : Follows rest) (negative : Bool)
    (digits : List Char) :
    numberFrom negative digits rest =
      (int (if negative then -(digitsValue digits : Int) else digitsValue digits), rest) := by
  rw [numberFrom, follows.splitFraction]
  dsimp only
  rw [follows.splitExponent?]

theorem numberFrom_point {rest : List Char} (follows : Follows rest) (negative : Bool)
    (digits : List Char) {fraction : List Char} (filled : fraction ≠ [])
    (areDigits : forall char, char ∈ fraction -> isDigit char = true) :
    numberFrom negative digits ('.' :: (fraction ++ rest)) =
      (float (Binary64.ofDecimal negative (digitsValue (digits ++ fraction)) (-fraction.length)),
        rest) := by
  rw [numberFrom, splitFraction_point filled areDigits follows.stops]
  dsimp only
  rw [follows.splitExponent?]
  cases fraction with
  | nil => exact absurd rfl filled
  | cons first others => rfl

end Follows

/-- Digits with an exponent. -/
theorem numberFrom_power {rest : List Char} (stops : Stops rest) (negative lowered : Bool)
    (digits : List Char) {power : List Char} (filled : power ≠ [])
    (areDigits : forall char, char ∈ power -> isDigit char = true) :
    numberFrom negative digits ('e' :: (if lowered then '-' else '+') :: (power ++ rest)) =
      (float (Binary64.ofDecimal negative (digitsValue digits)
        (if lowered then -(digitsValue power : Int) else digitsValue power)), rest) := by
  have noFraction (others : List Char) : splitFraction ('e' :: others) = ([], 'e' :: others) := rfl
  rw [numberFrom, noFraction]
  dsimp only
  rw [splitExponent?_signed lowered filled areDigits stops]
  dsimp only
  rw [List.append_nil, List.length_nil, Int.ofNat_zero, Int.sub_zero]

theorem numberFrom_point_power {rest : List Char} (stops : Stops rest) (negative lowered : Bool)
    (digits : List Char) {fraction power : List Char} (fractionFilled : fraction ≠ [])
    (fractionDigits : forall char, char ∈ fraction -> isDigit char = true) (filled : power ≠ [])
    (areDigits : forall char, char ∈ power -> isDigit char = true) :
    numberFrom negative digits
        ('.' :: (fraction ++ ('e' :: (if lowered then '-' else '+') :: (power ++ rest)))) =
      (float (Binary64.ofDecimal negative (digitsValue (digits ++ fraction))
        ((if lowered then -(digitsValue power : Int) else digitsValue power) - fraction.length)),
        rest) := by
  rw [numberFrom, splitFraction_point fractionFilled fractionDigits (Stops.cons 'e' (by decide) _)]
  dsimp only
  rw [splitExponent?_signed lowered filled areDigits stops]
  cases fraction with
  | nil => exact absurd rfl fractionFilled
  | cons first others => rfl

/-! ## Integers -/

theorem readNumber?_int (value : Int) {rest : List Char} (follows : Follows rest) :
    readNumber? ((toString value).toList ++ rest) = some (int value, rest) := by
  by_cases nonneg : 0 ≤ value
  · have read := readNumber?_signed false (Leading.ofNat value.toNat) follows.stops
    rw [follows.numberFrom_digits, digitsValue_toDigits] at read
    rw [toList_toString_of_nonneg nonneg]
    simpa [sign, Int.toNat_of_nonneg nonneg] using read
  · have negative : value < 0 := Int.not_le.mp nonneg
    have read := readNumber?_signed true (Leading.ofNat (-value).toNat) follows.stops
    rw [follows.numberFrom_digits, digitsValue_toDigits] at read
    have back : -((-value).toNat : Int) = value := by omega
    rw [if_pos rfl, back] at read
    rw [toList_toString_of_neg negative]
    exact read

/-! ## Decimals -/

/-- How an exponent is written: a zero is put in front of a digit that stands alone. -/
def padded (power : List Char) : List Char := if power.length < 2 then '0' :: power else power

theorem padded_spec {power : List Char} (filled : power ≠ [])
    (areDigits : forall char, char ∈ power -> isDigit char = true) :
    padded power ≠ [] ∧ (forall char, char ∈ padded power -> isDigit char = true) ∧
      digitsValue (padded power) = digitsValue power := by
  unfold padded
  split
  · refine ⟨List.cons_ne_nil _ _, ?_, ?_⟩
    · intro char member
      rcases List.mem_cons.mp member with rfl | later
      · decide
      · exact areDigits char later
    · rw [← List.singleton_append, digitsValue_append]
      simp [digitsValue]
  · exact ⟨filled, areDigits, rfl⟩

/-- The exponent of a decimal is written as its magnitude behind a sign. -/
theorem digitsValue_power (exponent : Int) :
    (if decide (exponent < 0) = true then -(digitsValue (Nat.toDigits 10 exponent.natAbs) : Int)
      else digitsValue (Nat.toDigits 10 exponent.natAbs)) = exponent := by
  rw [digitsValue_toDigits]
  split
  · next negative =>
      have isNegative := of_decide_eq_true negative
      omega
  · next other =>
      have nonneg : ¬exponent < 0 := fun negative => other (decide_eq_true negative)
      omega

section Layout

variable {first : Char} {others : List Char} (nonzero : first ≠ '0')
  (areDigits : forall char, char ∈ first :: others -> isDigit char = true)
include areDigits

/-- Zeros and the digits after a point that follows a zero. -/
theorem readNumber?_below (negative : Bool) (zeros : Nat) {rest : List Char}
    (follows : Follows rest) :
    readNumber? (sign negative ++
        ('0' :: '.' :: List.replicate zeros '0' ++ (first :: others) ++ rest)) =
      some (float (Binary64.ofDecimal negative (digitsValue (first :: others))
        (-(zeros + (first :: others).length : Nat))), rest) := by
  have filled : List.replicate zeros '0' ++ first :: others ≠ [] := by simp
  have digits (char : Char) (member : char ∈ List.replicate zeros '0' ++ first :: others) :
      isDigit char = true := by
    rcases List.mem_append.mp member with zero | digit
    · exact isDigit_zeros zero
    · exact areDigits char digit
  have read := readNumber?_signed negative .zero
    (Stops.cons '.' (by decide) (List.replicate zeros '0' ++ first :: others ++ rest))
  have sameValue : digitsValue (['0'] ++ (List.replicate zeros '0' ++ first :: others)) =
      digitsValue (first :: others) := by
    rw [digitsValue_append, digitsValue_append, digitsValue_zeros]
    simp [digitsValue]
  rw [follows.numberFrom_point negative ['0'] filled digits, sameValue, List.length_append,
    List.length_replicate] at read
  exact read

include nonzero

/-- Digits, zeros for the places up to the point, and a zero after it. -/
theorem readNumber?_above (negative : Bool) (zeros : Nat) {rest : List Char}
    (follows : Follows rest) :
    readNumber? (sign negative ++
        (first :: others ++ List.replicate zeros '0' ++ ['.', '0'] ++ rest)) =
      some (float (Binary64.ofDecimal negative
        (digitsValue (first :: others) * 10 ^ (zeros + 1)) (-1)), rest) := by
  have digits (char : Char) (member : char ∈ first :: (others ++ List.replicate zeros '0')) :
      isDigit char = true := by
    rw [← List.cons_append] at member
    rcases List.mem_append.mp member with digit | zero
    · exact areDigits char digit
    · exact isDigit_zeros zero
  have read := readNumber?_signed negative (.digits nonzero digits)
    (Stops.cons '.' (by decide) ('0' :: rest))
  have sameValue : digitsValue (first :: (others ++ List.replicate zeros '0') ++ ['0']) =
      digitsValue (first :: others) * 10 ^ (zeros + 1) := by
    have zeroLast : digitsValue ['0'] = 0 := by decide
    rw [← List.cons_append, digitsValue_append, digitsValue_append, digitsValue_zeros, zeroLast,
      List.length_replicate, Nat.pow_succ, ← Nat.mul_assoc]
    rfl
  have point := follows.numberFrom_point negative (first :: (others ++ List.replicate zeros '0'))
    (List.cons_ne_nil '0' []) isDigit_zero
  rw [sameValue] at point
  rw [List.append_assoc]
  exact read.trans (congrArg some point)

/-- Digits with a point among them. -/
theorem readNumber?_among (negative : Bool) {places : Nat} (filled : 0 < places)
    (fewer : places < (first :: others).length) {rest : List Char} (follows : Follows rest) :
    readNumber? (sign negative ++
        ((first :: others).take places ++ '.' :: (first :: others).drop places ++ rest)) =
      some (float (Binary64.ofDecimal negative (digitsValue (first :: others))
        (-((first :: others).length - places : Nat))), rest) := by
  have fraction : (first :: others).drop places ≠ [] := by
    rw [Ne, List.drop_eq_nil_iff]
    omega
  have fractionDigits (char : Char) (member : char ∈ (first :: others).drop places) :
      isDigit char = true := areDigits char (List.mem_of_mem_drop member)
  have leading : Leading ((first :: others).take places) := by
    cases places with
    | zero => omega
    | succ places =>
        refine .digits nonzero fun char member => areDigits char ?_
        exact List.mem_of_mem_take (i := places + 1) member
  have read := readNumber?_signed negative leading
    (Stops.cons '.' (by decide) ((first :: others).drop places ++ rest))
  rw [follows.numberFrom_point negative _ fraction fractionDigits, List.take_append_drop,
    List.length_drop] at read
  rw [List.append_assoc]
  exact read

/-- Digits, with a point after the first unless it stands alone, and an exponent. -/
theorem readNumber?_raised (negative : Bool) (exponent : Int) {rest : List Char}
    (follows : Follows rest) :
    readNumber? (sign negative ++ ((match first :: others with
        | leading :: rest@(_ :: _) => leading :: '.' :: rest
        | _ => first :: others) ++ 'e' :: (if exponent < 0 then '-' else '+') ::
          padded (Nat.toDigits 10 exponent.natAbs) ++ rest)) =
      some (float (Binary64.ofDecimal negative (digitsValue (first :: others))
        (exponent - others.length)), rest) := by
  have powerDigits (char : Char) (member : char ∈ Nat.toDigits 10 exponent.natAbs) :
      isDigit char = true := isDigit_toDigits member
  rcases padded_spec Nat.toDigits_ne_nil powerDigits with ⟨filled, paddedDigits, sameValue⟩
  have lowered : (if exponent < 0 then '-' else '+') =
      if decide (exponent < 0) = true then '-' else '+' := by
    simp only [decide_eq_true_eq]
  have power := digitsValue_power exponent
  rw [← sameValue] at power
  have leading : Leading [first] := by
    refine .digits nonzero fun char member => areDigits char ?_
    rw [List.mem_singleton.mp member]
    exact List.mem_cons_self
  generalize padded (Nat.toDigits 10 exponent.natAbs) = digits at *
  rw [lowered, List.append_assoc]
  cases others with
  | nil =>
      have read := readNumber?_signed negative leading (Stops.cons 'e' (by decide)
        ((if decide (exponent < 0) = true then '-' else '+') :: (digits ++ rest)))
      rw [numberFrom_power follows.stops negative _ _ filled paddedDigits, power] at read
      rw [List.length_nil, Int.ofNat_zero, Int.sub_zero]
      exact read
  | cons second others =>
      have fractionDigits (char : Char) (member : char ∈ second :: others) : isDigit char = true :=
        areDigits char (List.mem_cons_of_mem _ member)
      have read := readNumber?_signed negative leading (Stops.cons '.' (by decide)
        (second :: others ++
          'e' :: (if decide (exponent < 0) = true then '-' else '+') :: (digits ++ rest)))
      rw [numberFrom_point_power follows.stops negative _ _ (List.cons_ne_nil _ _) fractionDigits
        filled paddedDigits, power] at read
      exact read

end Layout

/-- A decimal is read as the value that was laid out. -/
theorem readNumber?_layout (negative : Bool) {value : Decimal} (positive : 0 < value.coefficient)
    {rest : List Char} (follows : Follows rest) :
    readNumber? (sign negative ++ (value.layout.toList ++ rest)) =
      some (float (Binary64.ofDecimal negative value.coefficient value.exponent), rest) := by
  have areDigits (char : Char) (member : char ∈ Nat.toDigits 10 value.coefficient) :
      isDigit char = true := isDigit_toDigits member
  have sameValue := digitsValue_toDigits value.coefficient
  rcases leading_toDigits positive with ⟨first, others, spelled, nonzero⟩
  unfold Decimal.layout
  dsimp only
  rw [spelled] at areDigits sameValue ⊢
  split
  · next outside =>
    rw [String.toList_ofList]
    refine (readNumber?_raised nonzero areDigits negative _ follows).trans ?_
    rw [sameValue]
    simp only [List.length_cons]
    congr 4
    omega
  · split
    · rw [String.toList_ofList]
      refine (readNumber?_below areDigits negative _ follows).trans ?_
      rw [sameValue]
      congr 4
      omega
    · split
      · rw [String.toList_ofList]
        refine (readNumber?_above nonzero areDigits negative _ follows).trans ?_
        rw [sameValue, Binary64.ofDecimal_mul_pow negative positive]
        congr 4
        omega
      · rw [String.toList_ofList]
        refine (readNumber?_among nonzero areDigits negative (by omega) (by omega) follows).trans ?_
        rw [sameValue]
        congr 4
        omega

/-! ## Floating-point numbers -/

theorem toList_text (negative : Bool) (significand shift : Nat) :
    (Binary64.finite negative significand shift).text.toList =
      sign negative ++ (if significand = 0 then "0.0" else
        (Decimal.shortest significand shift).layout).toList := by
  cases negative with
  | false => rfl
  | true =>
      rw [Binary64.text, if_pos rfl, String.toList_append]
      rfl

theorem positive_shortest {significand shift : Nat} (positive : 0 < significand)
    (canonical : (Binary64.finite false significand shift).Canonical) :
    0 < (Decimal.shortest significand shift).coefficient := by
  have read := Decimal.ofDecimal_shortest positive canonical
  by_contra none
  have isZero : (Decimal.shortest significand shift).coefficient = 0 :=
    Nat.eq_zero_of_not_pos none
  rw [isZero, Binary64.ofDecimal] at read
  simp only [true_or, if_true, Binary64.zero, Binary64.finite.injEq] at read
  omega

/-- The text of a finite number is read as the number. -/
theorem readNumber?_finite {negative : Bool} {significand shift : Nat}
    (canonical : (Binary64.finite negative significand shift).Canonical) {rest : List Char}
    (follows : Follows rest) :
    readNumber? ((Binary64.finite negative significand shift).text.toList ++ rest) =
      some (float (.finite negative significand shift), rest) := by
  rw [toList_text, List.append_assoc]
  by_cases isZero : significand = 0
  · have noShift : shift = 0 := by
      rcases canonical.2.2 with noShift | large
      · exact noShift
      · rw [isZero] at large
        exact absurd large (by decide)
    have read := readNumber?_signed negative .zero
      (Stops.cons '.' (by decide) ('0' :: rest))
    have point := follows.numberFrom_point negative ['0'] (List.cons_ne_nil '0' []) isDigit_zero
    have value : Binary64.ofDecimal negative (digitsValue (['0'] ++ ['0'])) (-['0'].length) =
        .finite negative 0 0 := rfl
    rw [value] at point
    rw [isZero, noShift, if_pos rfl]
    exact read.trans (congrArg some point)
  · have positive : 0 < significand := Nat.pos_of_ne_zero isZero
    have read := readNumber?_layout negative (positive_shortest positive canonical) follows
    have value := Decimal.ofDecimal_shortest positive canonical
    rw [if_neg isZero, read]
    cases negative with
    | false => rw [value]
    | true => rw [Binary64.ofDecimal_true, value]; rfl

end Json
end RouteIR
