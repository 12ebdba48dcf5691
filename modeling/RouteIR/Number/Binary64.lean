namespace RouteIR

/-!
# Floating-point numbers as exact multiples of a unit

A finite number is a natural significand shifted left by a natural amount,
counted in units of the least positive number.  One is `2 ^ 1074` units, so
every finite number is an integer in this scale, sums and products are exact
before they are rounded, and an integer of any size can be compared with a
floating-point number without rounding either of them.
-/

/-- A number of the format with 53 significant bits and 11 exponent bits.  What is not a
number keeps where it came from, since two of that kind are the same only when they have one
origin; the origin zero is that of the literal. -/
inductive Binary64 where
  | nan (origin : Nat)
  | infinity (negative : Bool)
  | finite (negative : Bool) (significand shift : Nat)
deriving DecidableEq, Repr

namespace Binary64

/-- How many units make one. -/
def unitsPerOne : Nat := Nat.pow 2 1074

/-- The greatest shift of a finite number. -/
def maxShift : Nat := 2045

/-- Each value has one representation: the significand has 53 bits, and fewer
only at shift zero. -/
def Canonical : Binary64 → Prop
  | finite _ significand shift =>
      significand < Nat.pow 2 53 ∧ shift ≤ maxShift ∧ (shift = 0 ∨ Nat.pow 2 52 ≤ significand)
  | _ => True

instance : DecidablePred Canonical
  | nan _ => inferInstanceAs (Decidable True)
  | infinity _ => inferInstanceAs (Decidable True)
  | finite _ significand shift =>
      inferInstanceAs (Decidable (significand < Nat.pow 2 53 ∧ shift ≤ maxShift ∧
        (shift = 0 ∨ Nat.pow 2 52 ≤ significand)))

def zero (negative : Bool) : Binary64 := finite negative 0 0

/-! ## Rounding -/

/-- The natural number nearest to a quotient, a tie going to the even one. -/
def roundHalfEven (numerator denominator : Nat) : Nat :=
  let quotient := numerator / denominator
  let remainder := numerator % denominator
  if 2 * remainder < denominator then quotient
  else if denominator < 2 * remainder then quotient + 1
  else quotient + quotient % 2

/-- The number nearest to a quotient of units.  A significand that rounds up to
`2 ^ 53` moves to the next shift, and beyond the last shift lies infinity. -/
def ofUnits (negative : Bool) (numerator denominator : Nat) : Binary64 :=
  let shift := Nat.log2 (numerator / denominator) + 1 - 53
  let significand := roundHalfEven numerator (denominator * Nat.pow 2 shift)
  let carried := if significand = Nat.pow 2 53 then (Nat.pow 2 52, shift + 1) else (significand, shift)
  if maxShift < carried.2 then infinity negative else finite negative carried.1 carried.2

def ofInt (value : Int) : Binary64 :=
  ofUnits (value < 0) (value.natAbs * unitsPerOne) 1

/-- How many decimal digits a natural number is written with. -/
def digitCount (value : Nat) : Nat := (Nat.toDigits 10 value).length

/-- The number nearest to `coefficient * 10 ^ exponent`.  Magnitudes far outside
the range of the format are decided without computing the power of ten. -/
def ofDecimal (negative : Bool) (coefficient : Nat) (exponent : Int) : Binary64 :=
  let magnitude := exponent + digitCount coefficient
  if coefficient = 0 ∨ magnitude < -330 then zero negative
  else if 310 < magnitude then infinity negative
  else if 0 ≤ exponent then
    ofUnits negative (coefficient * Nat.pow 10 exponent.toNat * unitsPerOne) 1
  else
    ofUnits negative (coefficient * unitsPerOne) (Nat.pow 10 (-exponent).toNat)

/-! ## Order -/

/-- A key that orders the numbers: the infinities enclose all finite values, and
what is not a number has no key. -/
def orderKey : Binary64 → Option (Int × Int)
  | nan _ => none
  | infinity negative => some (if negative then -1 else 1, 0)
  | finite negative significand shift =>
      some (0, if negative then -(significand * Nat.pow 2 shift : Nat) else (significand * Nat.pow 2 shift : Nat))

/-! ## Sums and products -/

private def ofSignedUnits (zeroIsNegative : Bool) (value : Int) (denominator : Nat) : Binary64 :=
  if value = 0 then zero zeroIsNegative else ofUnits (value < 0) value.natAbs denominator

def add : Binary64 → Binary64 → Binary64
  | nan origin, _ => nan origin
  | _, nan origin => nan origin
  | infinity left, infinity right => if left = right then infinity left else nan 0
  | infinity left, _ => infinity left
  | _, infinity right => infinity right
  | finite left leftSignificand leftShift, finite right rightSignificand rightShift =>
      let signed (negative : Bool) (magnitude : Nat) : Int :=
        if negative then -magnitude else magnitude
      ofSignedUnits (left && right)
        (signed left (leftSignificand * Nat.pow 2 leftShift) +
          signed right (rightSignificand * Nat.pow 2 rightShift)) 1

def mul : Binary64 → Binary64 → Binary64
  | nan origin, _ => nan origin
  | _, nan origin => nan origin
  | infinity left, infinity right => infinity (left != right)
  | infinity left, finite right significand _ =>
      if significand = 0 then nan 0 else infinity (left != right)
  | finite left significand _, infinity right =>
      if significand = 0 then nan 0 else infinity (left != right)
  | finite left leftSignificand leftShift, finite right rightSignificand rightShift =>
      ofUnits (left != right)
        (leftSignificand * Nat.pow 2 leftShift * (rightSignificand * Nat.pow 2 rightShift)) unitsPerOne

def negate : Binary64 → Binary64
  | nan origin => nan origin
  | infinity negative => infinity (!negative)
  | finite negative significand shift => finite (!negative) significand shift

/-! ## Origins -/

/-- Where what is not a number came from. -/
def origin : Binary64 → Nat
  | nan origin => origin
  | _ => 0

/-- The same number; what is not one gets an origin. -/
def fromOrigin (origin : Nat) : Binary64 → Binary64
  | nan _ => nan origin
  | value => value

end Binary64
end RouteIR
