namespace RouteIR
namespace Text
namespace Punycode

/-!
# Punycode

A text with characters beyond ASCII can be written in ASCII: its ASCII characters in their
order, and after a hyphen the places and code points of the others, as numbers of base
thirty-six.  The numbers are differences, and the weights of their digits follow the size of
the differences before them.
-/

def firstCode : Nat := 0x80

def firstBias : Nat := 72

/-- The least value of a digit at the given position that does not end the number. -/
def threshold (position bias : Nat) : Nat :=
  if position ≤ bias then 1 else if bias + 26 ≤ position then 26 else position - bias

theorem threshold_pos (position bias : Nat) : 0 < threshold position bias := by
  unfold threshold
  split
  · decide
  · split <;> omega

/-- Scales a difference down until it fits, and counts the positions saved. -/
def biasOf (difference position : Nat) : Nat :=
  if 455 < difference then biasOf (difference / 35) (position + 36)
  else position + 36 * difference / (difference + 38)
termination_by difference
decreasing_by exact Nat.div_lt_self (by omega) (by decide)

/-- The bias after a difference, when the text has come to the given length.  The first
difference is large by nature and counts less. -/
def adapt (difference length : Nat) (first : Bool) : Nat :=
  let damped := if first then difference / 700 else difference / 2
  biasOf (damped + damped / length) 0

/-- The letters stand for the digits up to twenty-five, the digits for the ten after them. -/
def digitChar (digit : Nat) : Char :=
  if digit < 26 then Char.ofNat ('a'.toNat + digit) else Char.ofNat ('0'.toNat + (digit - 26))

def digitValue? (char : Char) : Option Nat :=
  if 'a' ≤ char ∧ char ≤ 'z' then some (char.toNat - 'a'.toNat)
  else if 'A' ≤ char ∧ char ≤ 'Z' then some (char.toNat - 'A'.toNat)
  else if '0' ≤ char ∧ char ≤ '9' then some (char.toNat - '0'.toNat + 26)
  else none

/-- The digits of a number, from a position on. -/
def numberDigits (bias position number : Nat) : List Char :=
  let least := threshold position bias
  if number < least then [digitChar number]
  else
    let above := number - least
    digitChar (least + above % (36 - least)) ::
      numberDigits bias (position + 36) (above / (36 - least))
termination_by number
decreasing_by
  have positive := threshold_pos position bias
  exact Nat.lt_of_le_of_lt (Nat.div_le_self _ _) (by omega)

structure Encoding where
  /-- What is written, in reverse. -/
  output : List Char
  difference : Nat
  bias : Nat
  /-- How many characters are placed. -/
  length : Nat

/-- Passes over a character while the characters with a code point are placed. -/
def Encoding.pass (basics code : Nat) (state : Encoding) (char : Char) : Encoding :=
  if char.toNat < code then { state with difference := state.difference + 1 }
  else if char.toNat = code then
    { output := (numberDigits state.bias 36 state.difference).reverse ++ state.output
      difference := 0
      bias := adapt state.difference (state.length + 1) (state.length == basics)
      length := state.length + 1 }
  else state

/-- Places the characters with each of the code points, in ascending order. -/
def Encoding.place (chars : List Char) (basics : Nat) : List Nat → Nat → Encoding → Encoding
  | [], _, state => state
  | code :: codes, last, state =>
      let moved := { state with difference := state.difference + (code - last) * (state.length + 1) }
      let passed := chars.foldl (Encoding.pass basics code) moved
      place chars basics codes (code + 1) { passed with difference := passed.difference + 1 }

def encode (chars : List Char) : List Char :=
  let basic := chars.filter fun char => char.toNat < firstCode
  let codes := ((chars.map Char.toNat).filter (firstCode ≤ ·)).mergeSort.eraseDups
  let state := Encoding.place chars basic.length codes firstCode ⟨[], 0, firstBias, basic.length⟩
  basic ++ (if basic.isEmpty then [] else ['-']) ++ state.output.reverse

/-- The number of a row of digits, and what is left of the text; absent where the row ends in
the middle. -/
def number? (bias position weight sum : Nat) : List Char → Option (Nat × List Char)
  | [] => none
  | char :: rest =>
      match digitValue? char with
      | none => none
      | some digit =>
          let least := threshold position bias
          if digit < least then some (sum + digit * weight, rest)
          else number? bias (position + 36) (weight * (36 - least)) (sum + digit * weight) rest

theorem length_of_number? {bias position weight sum value : Nat} {text rest : List Char}
    (found : number? bias position weight sum text = some (value, rest)) :
    rest.length < text.length := by
  induction text generalizing position weight sum with
  | nil => simp [number?] at found
  | cons char tail ih =>
      simp only [number?] at found
      split at found
      · simp at found
      · split at found
        · simp only [Option.some.injEq, Prod.mk.injEq] at found
          simp [← found.2]
        · exact Nat.lt_succ_of_lt (ih found)

/-- What is read in place of a code point beyond all characters. -/
def hugeCode : Nat := '?'.toNat

/-- Puts the characters that the numbers describe into a text, up to the first that is no number,
and tells whether all of them are numbers and describe characters. -/
def insertAll (text : List Char) (code index bias : Nat) (first inOrder : Bool)
    (numbers : List Char) : List Char × Bool :=
  if numbers.isEmpty then (text, inOrder)
  else match found : number? bias 36 1 0 numbers with
    | none => (text, false)
    | some (difference, rest) =>
        let length := text.length + 1
        let place := index + difference
        let reached := code + place / length
        let newCode := if 0x10FFFF < reached then hugeCode else reached
        let before := place % length
        insertAll (text.take before ++ Char.ofNat newCode :: text.drop before) newCode (before + 1)
          (adapt difference length first) false (inOrder && newCode == reached) rest
termination_by numbers.length
decreasing_by exact length_of_number? found

/-- The text that was encoded, and whether the encoding is in order. -/
def read (chars : List Char) : List Char × Bool :=
  let numbers := (chars.reverse.takeWhile (· ≠ '-')).reverse
  let basic := chars.take (chars.length - numbers.length - 1)
  insertAll basic firstCode 0 firstBias true true numbers

/-- The text that was encoded, absent for what is no encoding. -/
def decode? (chars : List Char) : Option (List Char) :=
  let (text, inOrder) := read chars
  if inOrder then some text else none

end Punycode
end Text
end RouteIR
