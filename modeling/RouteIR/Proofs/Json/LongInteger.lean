import RouteIR.Proofs.Json.Numeral
import RouteIR.Proofs.Outcome

namespace RouteIR
namespace Json

/-!
# Integers of too many digits

An integer of too many digits ends the reading of a text.  Whatever the reader has read of a text,
it goes on with an end of it; so the digits of the integer are a run of characters of the text, and
a text without such a run is never refused for the length of an integer.
-/

variable {α β : Type}

/-- A run of more digits than an integer may have. -/
def HasLongRun (chars : List Char) : Prop :=
  Exists fun run => run <:+: chars ∧ (forall char, char ∈ run -> isDigit char = true) ∧
    digitLimit < run.length

theorem HasLongRun.of_part {part chars : List Char} (long : HasLongRun part)
    (inside : part <:+: chars) : HasLongRun chars := by
  rcases long with ⟨run, within, digits, beyond⟩
  exact ⟨run, within.trans inside, digits, beyond⟩

/-- What a part of the reader leaves is an end of the characters, and an integer that it finds too
long has a long run of digits among them. -/
def Consumes (chars : List Char) : Except ReadError (α × List Char) -> Prop :=
  Outcome.Ends (fun result => result.2 <:+ chars) fun failure =>
    failure = .longInteger -> HasLongRun chars

theorem Consumes.of_suffix {part chars : List Char} {outcome : Except ReadError (α × List Char)}
    (consumes : Consumes part outcome) (suffix : part <:+ chars) : Consumes chars outcome := by
  cases outcome with
  | ok result => exact List.IsSuffix.trans consumes suffix
  | error failure => exact fun long => (consumes long).of_part suffix.isInfix

theorem Consumes.bind {chars : List Char} {outcome : Except ReadError (α × List Char)}
    {next : α × List Char -> Except ReadError (β × List Char)} (first : Consumes chars outcome)
    (rest : forall value left, left <:+ chars -> Consumes left (next (value, left))) :
    Consumes chars (outcome >>= next) :=
  Outcome.Ends.bind first fun result suffix =>
    (rest result.1 result.2 suffix).of_suffix suffix

theorem consumes_ok (value : α) (left : List Char) :
    Consumes left (.ok (value, left) : Except ReadError (α × List Char)) := List.suffix_refl left

theorem consumes_failAt (fault : Fault) (place chars : List Char) :
    Consumes chars (failAt fault place : Except ReadError (α × List Char)) := nofun

theorem skipSpace_suffix (chars : List Char) : skipSpace chars <:+ chars :=
  List.dropWhile_suffix _

/-! ## Numbers -/

theorem digitsValue_lt {digits : List Char} (areDigits : forall char, char ∈ digits ->
    isDigit char = true) : digitsValue digits < 10 ^ digits.length := by
  induction digits using List.reverseRecOn with
  | nil => decide
  | append_singleton rest last ih =>
      have below := ih fun char member => areDigits char (List.mem_append_left _ member)
      have isLast := areDigits last (List.mem_append_right _ List.mem_cons_self)
      have digit : digitsValue [last] < 10 := by
        have upper : last.toNat ≤ '9'.toNat := by
          simp only [isDigit, Bool.and_eq_true, decide_eq_true_eq] at isLast
          exact isLast.2
        have zero : digitsValue [last] = last.toNat - '0'.toNat := by simp [digitsValue]
        have nine : '9'.toNat = 57 := rfl
        have none : '0'.toNat = 48 := rfl
        omega
      rw [digitsValue_append, List.length_append, List.length_singleton, Nat.pow_succ]
      omega

theorem splitFraction_suffix (chars : List Char) : (splitFraction chars).2 <:+ chars := by
  rw [Json.splitFraction.eq_def]
  split
  · split
    · exact (List.dropWhile_suffix _).trans ((List.suffix_cons _ _).trans (List.suffix_cons _ _))
    · exact List.suffix_refl _
  · exact List.suffix_refl _

theorem splitExponent?_suffix {chars left : List Char} {exponent : Int}
    (found : Json.splitExponent? chars = some (exponent, left)) : left <:+ chars := by
  have dropped {unsigned : List Char} {value : Int}
      (found : (if (unsigned.takeWhile isDigit).isEmpty then none
        else some (value, unsigned.dropWhile isDigit)) = some (exponent, left)) :
      left <:+ unsigned := by
    split at found
    · cases found
    · cases found
      exact List.dropWhile_suffix _
  rw [Json.splitExponent?.eq_def] at found
  split at found
  · next letter rest =>
      refine List.IsSuffix.trans ?_ (List.suffix_cons letter rest)
      split at found
      · dsimp only at found
        split at found
        · exact (dropped found).trans (List.suffix_cons _ _)
        · exact (dropped found).trans (List.suffix_cons _ _)
        · exact dropped found
      · cases found
  · cases found

theorem numberFrom_suffix (negative : Bool) (digits after : List Char) :
    (numberFrom negative digits after).2 <:+ after := by
  have fraction := splitFraction_suffix after
  rw [numberFrom]
  dsimp only
  split
  · exact fraction
  · exact fraction
  · next found => exact (splitExponent?_suffix found).trans fraction

theorem isLegible_int_iff (value : Int) :
    (Number.int value).isLegible = true ↔ value.natAbs < Nat.pow 10 digitLimit := by
  have units : 0 < Binary64.unitsPerOne := by decide +kernel
  simp only [Number.isLegible, Number.orderKey, decide_eq_true_eq]
  rw [Int.natAbs_mul, Int.natAbs_natCast]
  exact Nat.mul_lt_mul_right units

/-- Only an integer can be too long, and it has all the digits that are before a point. -/
theorem long_of_numberFrom {negative : Bool} {digits after : List Char}
    (areDigits : forall char, char ∈ digits -> isDigit char = true)
    (illegible : (numberFrom negative digits after).1.isLegible = false) :
    digitLimit < digits.length := by
  rw [numberFrom] at illegible
  dsimp only at illegible
  split at illegible
  · by_contra short
    have below : digitsValue digits < Nat.pow 10 digitLimit :=
      (digitsValue_lt areDigits).trans_le (Nat.pow_le_pow_right (by decide) (Nat.le_of_not_lt short))
    have legible (value : Int) (same : value.natAbs = digitsValue digits) :
        (int value).isLegible = true := (isLegible_int_iff value).mpr (same ▸ below)
    rw [legible _ (by split <;> simp)] at illegible
    cases illegible
  · cases illegible
  · cases illegible

theorem isDigit_leadingDigits {chars : List Char} {char : Char}
    (member : char ∈ leadingDigits chars) : isDigit char = true := by
  unfold leadingDigits at member
  split at member
  · exact isDigit_zero char member
  · exact List.all_eq_true.mp List.all_takeWhile char member

theorem leadingDigits_isPrefix (chars : List Char) : leadingDigits chars <+: chars := by
  unfold leadingDigits
  split
  · next rest => exact ⟨rest, rfl⟩
  · exact List.takeWhile_prefix _

theorem splitSign_suffix (chars : List Char) : (splitSign chars).2 <:+ chars := by
  unfold Json.splitSign
  split
  · exact List.suffix_cons _ _
  · exact List.suffix_refl _

theorem consumes_readScalar (chars : List Char) : Consumes chars (readScalar chars) := by
  rw [readScalar]
  split
  · exact List.drop_suffix _ _
  · split
    · next result found =>
        rw [readNumber?] at found
        dsimp only at found
        split at found
        · cases found
        · cases found
          have unsigned := splitSign_suffix chars
          split
          · exact (numberFrom_suffix _ _ _).trans ((List.drop_suffix _ _).trans unsigned)
          · next illegible =>
              refine fun _ => ⟨_, (leadingDigits_isPrefix _).isInfix.trans unsigned.isInfix,
                fun _ => isDigit_leadingDigits, ?_⟩
              exact long_of_numberFrom (fun _ => isDigit_leadingDigits)
                (Bool.eq_false_iff.mpr illegible)
    · exact consumes_failAt _ _ _

/-! ## Strings -/

theorem consumes_readUnicodeEscape (chars : List Char) :
    Consumes chars (readUnicodeEscape chars) := by
  have later (left : List Char) (count : Nat) (ends : chars.drop count = left) :
      left <:+ chars := ends ▸ List.drop_suffix count chars
  rw [readUnicodeEscape.eq_def]
  split
  · split
    · exact consumes_failAt _ _ _
    · dsimp only
      split
      · split
        · split
          · exact consumes_failAt _ _ _
          · split
            · exact later _ 11 rfl
            · exact later _ 5 rfl
        · exact later _ 5 rfl
      · exact later _ 5 rfl
  · exact consumes_failAt _ _ _

theorem consumes_readStringBody (opening fuel : Nat) (chars : List Char) :
    Consumes chars (readStringBody opening fuel chars) := by
  induction fuel generalizing chars with
  | zero => exact nofun
  | succ fuel ih =>
      rw [readStringBody.eq_def]
      dsimp only
      split
      · exact nofun
      · exact List.suffix_cons _ _
      · exact nofun
      · next letter rest =>
          have goesOn (char : Char) (left : List Char) : Consumes left
              (readStringBody opening fuel left >>= fun read => .ok (char :: read.1, read.2)) :=
            (ih left).bind fun _ _ _ => consumes_ok _ _
          refine Consumes.of_suffix ?_ (List.suffix_cons _ _)
          split
          · exact (consumes_readUnicodeEscape _).bind fun char left _ => goesOn char left
          · split
            · exact nofun
            · exact (goesOn _ rest).of_suffix (List.suffix_cons _ _)
      · split
        · exact consumes_failAt _ _ _
        · refine Consumes.of_suffix ?_ (List.suffix_cons _ _)
          exact (ih _).bind fun _ _ _ => consumes_ok _ _

theorem consumes_readString (chars : List Char) : Consumes chars (readString chars) :=
  (consumes_readStringBody _ _ chars).bind fun _ _ _ => consumes_ok _ _

/-! ## Values -/

/-- Closing an object takes no integer for too long. -/
def Closing.Patient (closing : Closing) : Prop :=
  forall members, closing members ≠ .error .longInteger

theorem patient_strict : Closing.strict.Patient := by
  intro members
  rw [Closing.strict]
  split <;> nofun

structure ConsumesBelow (closing : Closing) (fuel : Nat) : Prop where
  value : forall chars, Consumes chars (readValue closing fuel chars)
  members : forall chars, Consumes chars (readMembers closing fuel chars)
  items : forall chars, Consumes chars (readItems closing fuel chars)

section

variable {closing : Closing} {fuel : Nat}

theorem consumes_close (patient : closing.Patient) (members : List (String × Json))
    (left : List Char) :
    Consumes left (do return (← closing members, left) : Except ReadError (Json × List Char)) := by
  cases closed : closing members with
  | ok value => exact List.suffix_refl left
  | error failure => exact fun long => absurd (closed.trans (congrArg _ long)) (patient members)

theorem ConsumesBelow.readValue (patient : closing.Patient) (below : ConsumesBelow closing fuel)
    (chars : List Char) : Consumes chars (readValue closing (fuel + 1) chars) := by
  rw [readValue.eq_def]
  dsimp only
  split
  · next rest =>
      refine Consumes.of_suffix ?_ (List.suffix_cons _ rest)
      exact (consumes_readString rest).bind fun _ _ _ => consumes_ok _ _
  · next rest =>
      have inside := (skipSpace_suffix rest).trans (List.suffix_cons '\x7b' rest)
      split
      · next left ends =>
          rw [ends] at inside
          exact (consumes_close patient [] left).of_suffix ((List.suffix_cons _ left).trans inside)
      · refine Consumes.of_suffix ?_ inside
        exact (below.members _).bind fun members left _ => consumes_close patient members left
  · next rest =>
      have inside := (skipSpace_suffix rest).trans (List.suffix_cons '[' rest)
      split
      · next left ends =>
          rw [ends] at inside
          exact (List.suffix_cons _ left).trans inside
      · refine Consumes.of_suffix ?_ inside
        exact (below.items _).bind fun _ _ _ => consumes_ok _ _
  · exact consumes_readScalar _

theorem ConsumesBelow.readItems (below : ConsumesBelow closing fuel) (chars : List Char) :
    Consumes chars (readItems closing (fuel + 1) chars) := by
  rw [Json.readItems]
  refine (below.value chars).bind fun value after _ => ?_
  have blank := skipSpace_suffix after
  dsimp only
  split
  · next left ends =>
      rw [ends] at blank
      exact (List.suffix_cons _ left).trans blank
  · next next goesOn =>
      rw [goesOn] at blank
      refine Consumes.of_suffix ?_ (((skipSpace_suffix next).trans (List.suffix_cons _ next)).trans
        blank)
      exact (below.items _).bind fun _ _ _ => consumes_ok _ _
  · exact consumes_failAt _ _ _

theorem ConsumesBelow.readMembers (below : ConsumesBelow closing fuel) (chars : List Char) :
    Consumes chars (readMembers closing (fuel + 1) chars) := by
  rw [Json.readMembers.eq_def]
  dsimp only
  split
  · next rest =>
      refine Consumes.of_suffix ?_ (List.suffix_cons _ rest)
      refine (consumes_readString rest).bind fun key afterKey _ => ?_
      have behind := skipSpace_suffix afterKey
      dsimp only
      split
      · next afterColon colon =>
          rw [colon] at behind
          refine Consumes.of_suffix ?_ (((skipSpace_suffix afterColon).trans
            (List.suffix_cons _ afterColon)).trans behind)
          refine (below.value _).bind fun value after _ => ?_
          have blank := skipSpace_suffix after
          dsimp only
          split
          · next left ends =>
              rw [ends] at blank
              exact (List.suffix_cons _ left).trans blank
          · next next goesOn =>
              rw [goesOn] at blank
              refine Consumes.of_suffix ?_ (((skipSpace_suffix next).trans
                (List.suffix_cons _ next)).trans blank)
              exact (below.members _).bind fun _ _ _ => consumes_ok _ _
          · exact consumes_failAt _ _ _
      · exact consumes_failAt _ _ _
  · exact consumes_failAt _ _ _

theorem consumesBelow (patient : closing.Patient) (fuel : Nat) : ConsumesBelow closing fuel := by
  induction fuel with
  | zero => exact ⟨fun _ => nofun, fun _ => nofun, fun _ => nofun⟩
  | succ fuel ih => exact ⟨ih.readValue patient, ih.readMembers, ih.readItems⟩

/-- A text is refused for the length of an integer only if it has a run of that many digits. -/
theorem hasLongRun_of_read (patient : closing.Patient) {text : String}
    (long : read closing text = .error .longInteger) : HasLongRun text.toList := by
  rw [read, readChars.eq_def] at long
  split at long
  · cases long
  · have blank := skipSpace_suffix text.toList
    rcases Outcome.bind_eq_error_iff.mp long with unread | ⟨⟨value, left⟩, _, ends⟩
    · have consumes := (consumesBelow patient (text.toList.length + 1)).value
        (Json.skipSpace text.toList)
      exact (consumes.failure unread rfl).of_part blank.isInfix
    · dsimp only at ends
      split at ends <;> cases ends

end

end Json
end RouteIR
