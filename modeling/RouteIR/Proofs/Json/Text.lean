import RouteIR.Json.Reader
import RouteIR.Json.Writer
import RouteIR.Proofs.Text.Quoted

namespace RouteIR
namespace Json

/-!
# Strings that are read back

A string is written one character at a time, and each character is read back from its own code,
whatever follows: the quote, the backslash and the control characters stand behind a backslash,
and no other character is a quote, a backslash or a control character.
-/

theorem charOfCode_toNat {char : Char} (control : char.toNat < 0x20) :
    Text.charOfCode char.toNat = char := by
  have high : Text.isHighSurrogate char.toNat = false := by
    simp only [Text.isHighSurrogate, Bool.and_eq_false_iff, decide_eq_false_iff_not]
    omega
  have low : Text.isLowSurrogate char.toNat = false := by
    simp only [Text.isLowSurrogate, Bool.and_eq_false_iff, decide_eq_false_iff_not]
    omega
  rw [Text.charOfCode, high, low]
  exact Char.ofNat_toNat char

/-- The digits of a control character, which is half of no pair. -/
theorem readUnicodeEscape_hexDigits {char : Char} (control : char.toNat < 0x20) (next : Char)
    (rest : List Char) :
    readUnicodeEscape ('u' :: (Text.hexDigits 4 char.toNat ++ next :: rest)) =
      .ok (char, next :: rest) := by
  have small : char.toNat < Nat.pow 16 4 := Nat.lt_trans control (by decide)
  have four := Text.length_hexDigits (show 0 < 4 by decide) small
  have value := Text.hexNumber?_hexDigits 4 char.toNat
  have single := charOfCode_toNat control
  have high : Text.isHighSurrogate char.toNat = false := by
    simp only [Text.isHighSurrogate, Bool.and_eq_false_iff, decide_eq_false_iff_not]
    omega
  generalize Text.hexDigits 4 char.toNat = digits at four value
  match digits, four with
  | [a, b, c, d], _ =>
      simp only [List.cons_append, List.nil_append, readUnicodeEscape, value, single, high]
      split
      · rfl
      · rfl

theorem readStringBody_plain {char : Char} (opening fuel : Nat) (quote : char ≠ '"')
    (backslash : char ≠ '\\') (printable : ¬char.toNat < 0x20) (rest : List Char) :
    readStringBody opening (fuel + 1) (char :: rest) =
      (readStringBody opening fuel rest).bind fun read => .ok (char :: read.1, read.2) := by
  rw [readStringBody.eq_def]
  dsimp only
  split
  · next same => cases same
  · next same => exact absurd (List.cons.inj same).1 quote
  · next same => exact absurd (List.cons.inj same).1 backslash
  · next same => exact absurd (List.cons.inj same).1 backslash
  · next same =>
      rcases List.cons.inj same with ⟨rfl, rfl⟩
      rw [if_neg printable]
      rfl

/-- A backslash with the letter that stands for a character. -/
theorem readStringBody_escaped {letter char : Char} (opening fuel : Nat)
    (known : escaped? letter = some char) (notUnicode : letter ≠ 'u') (rest : List Char) :
    readStringBody opening (fuel + 1) ('\\' :: letter :: rest) =
      (readStringBody opening fuel rest).bind fun read => .ok (char :: read.1, read.2) := by
  simp only [readStringBody, if_neg notUnicode, known]
  rfl

theorem readStringBody_control {char : Char} (opening fuel : Nat) (control : char.toNat < 0x20)
    (next : Char) (rest : List Char) :
    readStringBody opening (fuel + 1)
        ('\\' :: 'u' :: (Text.hexDigits 4 char.toNat ++ next :: rest)) =
      (readStringBody opening fuel (next :: rest)).bind fun read =>
        .ok (char :: read.1, read.2) := by
  simp only [readStringBody, if_true, readUnicodeEscape_hexDigits control]
  rfl

/-- One step reads the code of one character, behind which the string goes on or ends. -/
theorem readStringBody_writeChar (opening fuel : Nat) (char next : Char) (rest : List Char) :
    readStringBody opening (fuel + 1) (writeChar char ++ next :: rest) =
      (readStringBody opening fuel (next :: rest)).bind fun read =>
        .ok (char :: read.1, read.2) := by
  have escape (letter : Char) (known : escaped? letter = some char) (notUnicode : letter ≠ 'u') :=
    readStringBody_escaped opening fuel known notUnicode (next :: rest)
  unfold writeChar
  split
  · next same => exact escape '"' (by rw [same]; rfl) (by decide)
  · next quote =>
    split
    · next same => exact escape '\\' (by rw [same]; rfl) (by decide)
    · next backslash =>
      split
      · next same => exact escape 'n' (by rw [same]; rfl) (by decide)
      · split
        · next same => exact escape 'r' (by rw [same]; rfl) (by decide)
        · split
          · next same => exact escape 't' (by rw [same]; rfl) (by decide)
          · split
            · next same => exact escape 'b' (by rw [same]; rfl) (by decide)
            · split
              · next same => exact escape 'f' (by rw [same]; rfl) (by decide)
              · split
                · next control => exact readStringBody_control opening fuel control next rest
                · next printable =>
                  exact readStringBody_plain opening fuel quote backslash printable _

theorem readStringBody_flatMap (opening : Nat) (text rest : List Char) {fuel : Nat}
    (enough : text.length < fuel) :
    readStringBody opening fuel (text.flatMap writeChar ++ '"' :: rest) = .ok (text, rest) := by
  induction text generalizing fuel with
  | nil =>
      cases fuel with
      | zero => exact absurd enough (Nat.not_lt_zero _)
      | succ fuel => rfl
  | cons char text ih =>
      cases fuel with
      | zero => exact absurd enough (Nat.not_lt_zero _)
      | succ fuel =>
          have read := ih (Nat.lt_of_succ_lt_succ enough)
          have continues : text.flatMap writeChar ++ '"' :: rest ≠ [] := by simp
          rcases List.exists_cons_of_ne_nil continues with ⟨next, others, later⟩
          rw [List.flatMap_cons, List.append_assoc, later, readStringBody_writeChar, ← later, read]
          rfl

theorem length_le_flatMap (text : List Char) : text.length ≤ (text.flatMap writeChar).length := by
  induction text with
  | nil => exact Nat.le_refl _
  | cons char text ih =>
      have coded : 0 < (writeChar char).length := by
        unfold writeChar
        repeat' split
        all_goals exact Nat.succ_pos _
      rw [List.flatMap_cons, List.length_append, List.length_cons]
      omega

/-- A string is read from behind its opening quote. -/
theorem readString_writeString (text : String) (rest : List Char) :
    readString (text.toList.flatMap writeChar ++ '"' :: rest) = .ok (text, rest) := by
  have enough : text.toList.length <
      (text.toList.flatMap writeChar ++ '"' :: rest).length + 1 := by
    have short := length_le_flatMap text.toList
    rw [List.length_append]
    omega
  rw [readString, readStringBody_flatMap _ _ _ enough]
  simp [bind, Except.bind, String.ofList_toList]

end Json
end RouteIR
