import RouteIR.Number.Binary64

namespace RouteIR

/-!
# Shortest decimal text

A floating-point number is written with the fewest digits that read back as
the same number, and of the numerals with that many digits the nearest one is
taken.  The search looks at the two neighbours of the exact value on the grid of
one digit, then of two, up to seventeen, and reads each of them back; its last
resort is the exact decimal expansion, which always reads back.

Integers and the powers of ten are exact natural numbers throughout.
-/

/-- The value `coefficient * 10 ^ exponent`. -/
structure Decimal where
  coefficient : Nat
  exponent : Int
deriving DecidableEq, Repr

namespace Decimal

/-- The exponent of the leading digit of a positive quotient. -/
def leadingExponent (numerator denominator : Nat) : Int :=
  let guess : Int := (Binary64.digitCount numerator : Int) - Binary64.digitCount denominator
  let reached :=
    if 0 ≤ guess then denominator * Nat.pow 10 guess.toNat ≤ numerator
    else denominator ≤ numerator * Nat.pow 10 (-guess).toNat
  if reached then guess else guess - 1

/-- The two neighbours of a quotient on the grid of the given exponent, the
nearer one first. -/
def neighbours (numerator denominator : Nat) (exponent : Int) : List Decimal :=
  let scaledNumerator := if 0 ≤ exponent then numerator else numerator * Nat.pow 10 (-exponent).toNat
  let scaledDenominator := if 0 ≤ exponent then denominator * Nat.pow 10 exponent.toNat else denominator
  let below := scaledNumerator / scaledDenominator
  let nearest := Binary64.roundHalfEven scaledNumerator scaledDenominator
  let other := if nearest = below then below + 1 else below
  [⟨nearest, exponent⟩, ⟨other, exponent⟩]

/-- Moves trailing zeros of the coefficient into the exponent. -/
def dropZeros : Nat → Decimal → Decimal
  | 0, value => value
  | fuel + 1, value =>
      if value.coefficient % 10 = 0 ∧ value.coefficient ≠ 0 then
        dropZeros fuel ⟨value.coefficient / 10, value.exponent + 1⟩
      else value

/-- The shortest decimal that reads back as the positive number with the given
significand and shift. -/
def shortest (significand shift : Nat) : Decimal :=
  let numerator := significand * Nat.pow 2 shift
  let leading := leadingExponent numerator Binary64.unitsPerOne
  let readsBack (candidate : Decimal) : Bool :=
    Binary64.ofDecimal false candidate.coefficient candidate.exponent =
      .finite false significand shift
  let found := (List.range 17).findSome? fun (places : Nat) =>
    (neighbours numerator Binary64.unitsPerOne (leading - places)).find? readsBack
  match found with
  | some value => dropZeros (Binary64.digitCount value.coefficient) value
  | none => ⟨numerator * Nat.pow 5 1074, -1074⟩

/-! ## Layout -/

/-- Where the positional notation ends, and how an exponent is written: exponents
from -4 to 15 are positional, others follow a letter with a sign and at least two
digits, and a positional numeral always has a point. -/
def layout (value : Decimal) : String :=
  let digits := Nat.toDigits 10 value.coefficient
  let point : Int := digits.length + value.exponent
  let exponent := point - 1
  if exponent < -4 ∨ 16 ≤ exponent then
    let mantissa := match digits with
      | leading :: rest@(_ :: _) => leading :: '.' :: rest
      | _ => digits
    let power := Nat.toDigits 10 exponent.natAbs
    let padded := if power.length < 2 then '0' :: power else power
    String.ofList (mantissa ++ 'e' :: (if exponent < 0 then '-' else '+') :: padded)
  else if point ≤ 0 then
    String.ofList ('0' :: '.' :: List.replicate (-point).toNat '0' ++ digits)
  else if (digits.length : Int) ≤ point then
    String.ofList (digits ++ List.replicate (point.toNat - digits.length) '0' ++ ['.', '0'])
  else
    String.ofList (digits.take point.toNat ++ '.' :: digits.drop point.toNat)

end Decimal

namespace Binary64

/-- The text of a number: the shortest decimal, a sign in front of what is
negative, zero included, and words for what is not finite. -/
def text : Binary64 → String
  | nan _ => "nan"
  | infinity negative => if negative then "-inf" else "inf"
  | finite negative significand shift =>
      let magnitude :=
        if significand = 0 then "0.0" else (Decimal.shortest significand shift).layout
      if negative then "-" ++ magnitude else magnitude

end Binary64
end RouteIR
