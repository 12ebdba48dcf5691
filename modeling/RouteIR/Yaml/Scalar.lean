import RouteIR.Text.Blank
import RouteIR.Text.Digit
import RouteIR.Yaml.Tag

namespace RouteIR
namespace Yaml
namespace Scalar

/-!
# The values of tagged scalars

The text of a scalar and its tag give its value.  A tag may be written in front of
any text, so each reading can fail.
-/

def withoutGaps (text : List Char) : List Char := text.filter (· ≠ '_')

/-- The sign and what follows it.  An empty text has no first character to look at. -/
def splitSign (text : List Char) : Except Failure (Bool × List Char) :=
  match text with
  | [] => .error .emptyNumber
  | '-' :: rest => .ok (true, rest)
  | '+' :: rest => .ok (false, rest)
  | _ => .ok (false, text)

/-! ## Integers -/

/-- The value of a digit in bases up to sixteen. -/
def digitIn? (base : Nat) (char : Char) : Option Nat :=
  (Text.hexValue? char).filter (· < base)

/-- The letter that may introduce the digits of a base. -/
def baseLetter? : Nat → Option Char
  | 2 => some 'b'
  | 8 => some 'o'
  | 16 => some 'x'
  | _ => none

/-- The characters that a number is read from: digits of all scripts are the same digits,
and white space around them does not count. -/
def numberText (text : List Char) : List Char :=
  Text.trimWhiteSpace (text.map Text.plainDigit)

/-- A numeral with white space around it, an optional sign, the base's introduction and at
least one digit. -/
def numeral? (base : Nat) (text : List Char) : Option Int := do
  let (negative, unsigned) := match numberText text with
    | '-' :: rest => (true, rest)
    | '+' :: rest => (false, rest)
    | chars => (false, chars)
  let digits := match unsigned with
    | '0' :: letter :: rest =>
        if (baseLetter? base).any fun wanted => wanted = letter.toLower then rest else unsigned
    | _ => unsigned
  if digits.isEmpty then none
  let magnitude ← digits.foldlM (fun value char => (digitIn? base char).map (value * base + ·)) 0
  return if negative then -(magnitude : Int) else magnitude

def requireNumber {α : Type} : Option α → Except Failure α
  | some value => .ok value
  | none => .error .invalidNumber

/-- A numeral in base ten.  One of too many digits is not read, zeros in front counting. -/
def decimalNumeral? (text : List Char) : Option Int :=
  if (numberText text).countP isDecimal ≤ digitLimit then numeral? 10 text else none

/-- The parts between colons. -/
def splitColons (text : List Char) : List (List Char) := text.splitOn ':'

def sumSixtieths (places : List Int) : Int := places.foldl (fun value place => value * 60 + place) 0

def intValue (text : String) : Except Failure Int := do
  let (negative, digits) ← splitSign (withoutGaps text.toList)
  let magnitude ← match digits with
    | ['0'] => pure 0
    | '0' :: 'b' :: rest => requireNumber (numeral? 2 rest)
    | '0' :: 'x' :: rest => requireNumber (numeral? 16 rest)
    | '0' :: _ => requireNumber (numeral? 8 digits)
    | [] => .error .emptyNumber
    | _ =>
        if digits.contains ':' then
          return sumSixtieths
            (← (splitColons digits).mapM fun part => requireNumber (decimalNumeral? part))
            * (if negative then -1 else 1)
        else requireNumber (decimalNumeral? digits)
  return if negative then -magnitude else magnitude

/-! ## Floating-point numbers -/

/-- A decimal numeral in any of its spellings, with white space around it: digits with an
optional point and exponent, or a word. -/
def decimal? (text : List Char) : Option Binary64 := do
  let (negative, unsigned) := match numberText text with
    | '-' :: rest => (true, rest)
    | '+' :: rest => (false, rest)
    | chars => (false, chars)
  let word := String.ofList (unsigned.map Char.toLower)
  if word = "inf" ∨ word = "infinity" then return .infinity negative
  if word = "nan" then return .nan 0
  let whole := unsigned.takeWhile isDecimal
  let (fraction, rest) := match unsigned.dropWhile isDecimal with
    | '.' :: after => (after.takeWhile isDecimal, after.dropWhile isDecimal)
    | after => ([], after)
  if whole.isEmpty && fraction.isEmpty then none
  let exponent ← match rest with
    | [] => some 0
    | letter :: after =>
        if (letter = 'e' ∨ letter = 'E') ∧ !after.any Text.isWhiteSpace then numeral? 10 after else none
  let value (digits : List Char) : Nat :=
    digits.foldl (fun value digit => value * 10 + (digit.toNat - '0'.toNat)) 0
  return Binary64.ofDecimal negative (value (whole ++ fraction)) (exponent - fraction.length)

/-- The sum of places in base sixty, the last one first, when the first of them weighs the
given integer.  It is rounded after each step; an integer beyond all numbers of the format
cannot weigh a place, not even an empty one. -/
def sumFloatSixtieths (sum : Binary64) (weight : Int) : List Binary64 → Except Failure Binary64
  | [] => .ok sum
  | place :: rest =>
      match Binary64.ofInt weight with
      | .infinity _ => .error .hugeNumber
      | factor => sumFloatSixtieths (sum.add (place.mul factor)) (weight * 60) rest

/-- A floating-point number.  What is not a number is the literal if it is written with a
point, and else one of its own, from the given origin. -/
def floatValue (origin : Nat) (text : String) : Except Failure Binary64 := do
  let lower := (withoutGaps text.toList).map Char.toLower
  let (negative, digits) ← splitSign lower
  if digits = ".nan".toList then return .nan 0
  let magnitude ←
    if digits = ".inf".toList then pure (.infinity false)
    else if digits.contains ':' then do
      let places ← (splitColons digits).mapM fun part => requireNumber (decimal? part)
      sumFloatSixtieths (.zero false) 1 places.reverse
    else requireNumber (decimal? digits)
  return (if negative then magnitude.negate else magnitude).fromOrigin origin

/-! ## Truth values -/

def boolValue (text : String) : Except Failure Bool :=
  let lower := String.ofList (text.toList.map Char.toLower)
  if lower = "yes" ∨ lower = "true" ∨ lower = "on" then .ok true
  else if lower = "no" ∨ lower = "false" ∨ lower = "off" then .ok false
  else .error .unknownTruthValue

/-! ## Time stamps -/

def number (digits : List Char) : Nat :=
  digits.foldl (fun value digit => value * 10 + (digit.toNat - '0'.toNat)) 0

def offsetMinutes (offset : Tag.StampOffset) : Int :=
  let minutes : Int := number offset.hours * 60 + number offset.minutes
  if offset.negative then -minutes else minutes

/-- A date, or a date with a time of day.  Fractions are cut after six digits. -/
def timestampValue (text : String) : Except Failure Tree := do
  match Tag.stamp? (Tag.decisive text.toList) with
  | none => .error .notATimestamp
  | some stamp =>
      let date : Date := ⟨number stamp.year, number stamp.month, number stamp.day⟩
      match stamp.clock with
      | none => if date.isValid then return .date date else .error .invalidNumber
      | some clock =>
          let fraction := clock.fraction.take 6
          let padded := fraction ++ List.replicate (6 - fraction.length) '0'
          let moment : DateTime :=
            { date := date
              hour := number clock.hour
              minute := number clock.minute
              second := number clock.second
              microsecond := number padded
              offset := clock.offset.map offsetMinutes }
          if moment.isValid then return .dateTime moment else .error .invalidNumber

/-! ## Bytes -/

/-- The six bits of a character of the base 64 alphabet. -/
def sextet? (char : Char) : Option Nat :=
  if 'A' ≤ char ∧ char ≤ 'Z' then some (char.toNat - 'A'.toNat)
  else if 'a' ≤ char ∧ char ≤ 'z' then some (char.toNat - 'a'.toNat + 26)
  else if '0' ≤ char ∧ char ≤ '9' then some (char.toNat - '0'.toNat + 52)
  else if char = '+' then some 62
  else if char = '/' then some 63
  else none

/-- Decodes groups of four sextets.  The state is how many sextets of the group have
been read, the bits left over, and how many padding characters came in a row.
Padding that fills the group ends the text; characters outside the alphabet are
passed over; a group that stays open is a fault. -/
def decodeSextets : Nat → Nat → Nat → List Char → Option (List UInt8)
  | position, _, _, [] => if position = 0 then some [] else none
  | position, left, padding, char :: rest =>
      if char = '=' then
        if 2 ≤ position ∧ 4 ≤ position + padding + 1 then some []
        else decodeSextets position left (if 2 ≤ position then padding + 1 else padding) rest
      else match sextet? char with
        | none => decodeSextets position left padding rest
        | some bits =>
            match position with
            | 0 => decodeSextets 1 bits 0 rest
            | 1 => (decodeSextets 2 (bits % 16) 0 rest).map (UInt8.ofNat (left * 4 + bits / 16) :: ·)
            | 2 => (decodeSextets 3 (bits % 4) 0 rest).map (UInt8.ofNat (left * 16 + bits / 4) :: ·)
            | _ => (decodeSextets 0 0 0 rest).map (UInt8.ofNat (left * 64 + bits) :: ·)

def bytesValue (text : String) : Except Failure (List UInt8) :=
  let chars := text.toList
  if chars.all fun char => char.toNat < 0x80 then
    match decodeSextets 0 0 0 chars with
    | some bytes => .ok bytes
    | none => .error .syntaxError
  else .error .syntaxError

/-! ## By tag -/

/-- The value of a scalar's text under a tag of scalars.  The origin is that of its node. -/
def value (origin : Nat) (tag text : String) (place : Mark) : Except Failure Tree := do
  if tag = Tag.core "null" then return .null
  else if tag = Tag.core "bool" then return .bool (← boolValue text)
  else if tag = Tag.core "int" then return .int (← intValue text)
  else if tag = Tag.core "float" then return .float (← floatValue origin text)
  else if tag = Tag.core "binary" then return .bytes (← bytesValue text)
  else if tag = Tag.core "timestamp" then timestampValue text
  else if tag = Tag.core "str" then return .str text
  else .error (.unknownTag tag place)

end Scalar
end Yaml
end RouteIR
