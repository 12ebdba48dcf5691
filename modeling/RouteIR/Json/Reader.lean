import RouteIR.Json
import RouteIR.Keyed
import RouteIR.Text.CodePoint
import RouteIR.Text.Digit

namespace RouteIR
namespace Json

/-!
# Reading JSON text

The reader consumes a list of characters and returns a value with the characters
that follow it.  A fault is recorded with the number of characters from its place
to the end of the text, from which line and column follow once the whole text is
at hand.  What becomes of the members of an object, when its closing brace has
been read, is a parameter: documents refuse repeated keys, configuration keeps
the last value.
-/

/-- What a text violates. -/
inductive Fault where
  | value
  | propertyName
  | colon
  | comma
  | unterminatedString
  | controlCharacter
  | escape
  | unicodeEscape
  | extraData
  | byteOrderMark
deriving DecidableEq, Repr

def Fault.message : Fault → String
  | value => "Expecting value"
  | propertyName => "Expecting property name enclosed in double quotes"
  | colon => "Expecting ':' delimiter"
  | comma => "Expecting ',' delimiter"
  | unterminatedString => "Unterminated string starting at"
  | controlCharacter => "Invalid control character at"
  | escape => "Invalid \\escape"
  | unicodeEscape => "Invalid \\uXXXX escape"
  | extraData => "Extra data"
  | byteOrderMark => "Unexpected UTF-8 BOM (decode using utf-8-sig)"

inductive ReadError where
  /-- A fault, with the number of characters from its place to the end. -/
  | syntaxFault (fault : Fault) (remaining : Nat)
  | repeatedKey (key : String)
  /-- An integer has too many digits. -/
  | longInteger
deriving DecidableEq, Repr

def failAt {α : Type} (fault : Fault) (chars : List Char) : Except ReadError α :=
  .error (.syntaxFault fault chars.length)

def isSpace (char : Char) : Bool :=
  char = ' ' || char = '\t' || char = '\n' || char = '\r'

def skipSpace (chars : List Char) : List Char := chars.dropWhile isSpace

/-! ## Strings -/

/-- The character that a letter after a backslash stands for. -/
def escaped? : Char → Option Char
  | '"' => some '"'
  | '\\' => some '\\'
  | '/' => some '/'
  | 'b' => some '\x08'
  | 'f' => some '\x0c'
  | 'n' => some '\n'
  | 'r' => some '\r'
  | 't' => some '\t'
  | _ => none

/-- The character written as a code unit in four hexadecimal digits, or as two code
units that form a surrogate pair.  The characters given start behind the backslash,
and at least one more must follow the digits. -/
def readUnicodeEscape (chars : List Char) : Except ReadError (Char × List Char) :=
  match chars with
  | 'u' :: a :: b :: c :: d :: next :: rest =>
      match Text.hexNumber? [a, b, c, d] with
      | none => failAt .unicodeEscape chars
      | some unit =>
          let single := .ok (Text.charOfCode unit, next :: rest)
          match next, rest with
          | '\\', 'u' :: e :: f :: g :: h :: after :: others =>
              if Text.isHighSurrogate unit then
                match Text.hexNumber? [e, f, g, h] with
                | none => failAt .unicodeEscape rest
                | some second =>
                    if Text.isLowSurrogate second then
                      .ok (Text.joinSurrogates unit second, after :: others)
                    else single
              else single
          | _, _ => single
  | _ => failAt .unicodeEscape chars

/-- The characters of a string up to its closing quote.  The first number bounds the
steps; the second counts the characters from the opening quote to the end of the
text. -/
def readStringBody (opening : Nat) : Nat → List Char → Except ReadError (List Char × List Char)
  | 0, _ => .error (.syntaxFault .unterminatedString opening)
  | fuel + 1, chars =>
      match chars with
      | [] => .error (.syntaxFault .unterminatedString opening)
      | '"' :: rest => .ok ([], rest)
      | '\\' :: [] => .error (.syntaxFault .unterminatedString opening)
      | '\\' :: letter :: rest => do
          let (char, afterEscape) ←
            if letter = 'u' then readUnicodeEscape (letter :: rest)
            else match escaped? letter with
              | none => failAt .escape chars
              | some char => .ok (char, rest)
          let (body, left) ← readStringBody opening fuel afterEscape
          .ok (char :: body, left)
      | char :: rest =>
          if char.toNat < 0x20 then failAt .controlCharacter chars
          else do
            let (body, left) ← readStringBody opening fuel rest
            .ok (char :: body, left)

/-- A string whose opening quote has been consumed. -/
def readString (chars : List Char) : Except ReadError (String × List Char) := do
  let (body, rest) ← readStringBody (chars.length + 1) (chars.length + 1) chars
  .ok (String.ofList body, rest)

/-! ## Numbers -/

def isDigit (char : Char) : Bool := '0' ≤ char && char ≤ '9'

/-- The natural number that a run of decimal digits denotes. -/
def digitsValue (digits : List Char) : Nat :=
  digits.foldl (fun value digit => value * 10 + (digit.toNat - '0'.toNat)) 0

/-- The fraction of a number: a point with at least one digit after it. -/
def splitFraction : List Char → List Char × List Char
  | '.' :: digit :: rest =>
      if isDigit digit then (digit :: rest.takeWhile isDigit, rest.dropWhile isDigit)
      else ([], '.' :: digit :: rest)
  | chars => ([], chars)

/-- The exponent of a number: a letter, an optional sign and at least one digit. -/
def splitExponent? : List Char → Option (Int × List Char)
  | letter :: rest =>
      if letter = 'e' ∨ letter = 'E' then
        let (negative, unsigned) := match rest with
          | '-' :: after => (true, after)
          | '+' :: after => (false, after)
          | _ => (false, rest)
        let digits := unsigned.takeWhile isDigit
        if digits.isEmpty then none
        else
          let magnitude : Int := digitsValue digits
          some (if negative then -magnitude else magnitude, unsigned.dropWhile isDigit)
      else none
  | [] => none

/-- The number with the given sign and digits, and what follows it: an integer when neither
a fraction nor an exponent comes after the digits. -/
def numberFrom (negative : Bool) (digits after : List Char) : Json × List Char :=
  let (fraction, afterFraction) := splitFraction after
  match fraction, splitExponent? afterFraction with
  | [], none =>
      let magnitude : Int := digitsValue digits
      (int (if negative then -magnitude else magnitude), afterFraction)
  | _, none =>
      (float (Binary64.ofDecimal negative (digitsValue (digits ++ fraction)) (-fraction.length)),
        afterFraction)
  | _, some (exponent, rest) =>
      (float (Binary64.ofDecimal negative (digitsValue (digits ++ fraction))
        (exponent - fraction.length)), rest)

/-- Whether a minus stands at the front, and what follows it. -/
def splitSign : List Char → Bool × List Char
  | '-' :: rest => (true, rest)
  | chars => (false, chars)

/-- The digits that a number starts with: no digit follows a zero. -/
def leadingDigits : List Char → List Char
  | '0' :: _ => ['0']
  | chars => chars.takeWhile isDigit

/-- The longest number at the front. -/
def readNumber? (chars : List Char) : Option (Json × List Char) :=
  let (negative, unsigned) := splitSign chars
  let digits := leadingDigits unsigned
  if digits.isEmpty then none
  else some (numberFrom negative digits (unsigned.drop digits.length))

/-! ## Values -/

/-- The words that are values. -/
def words : List (List Char × Json) :=
  [("null".toList, null), ("true".toList, bool true), ("false".toList, bool false),
    ("NaN".toList, float (.nan 0)), ("Infinity".toList, float (.infinity false)),
    ("-Infinity".toList, float (.infinity true))]

/-- A word or a number at the front. -/
def readScalar (chars : List Char) : Except ReadError (Json × List Char) :=
  match words.find? fun word => word.1.isPrefixOf chars with
  | some (word, value) => .ok (value, chars.drop word.length)
  | none =>
      match readNumber? chars with
      | some result => if result.1.isLegible then .ok result else .error .longInteger
      | none => failAt .value chars

/-- What becomes of the members of an object. -/
abbrev Closing := List (String × Json) → Except ReadError Json

/-- Refuses an object that repeats a key. -/
def Closing.strict : Closing := fun members =>
  match Keyed.firstRepeated? [] members with
  | some key => .error (.repeatedKey key)
  | none => .ok (object members)

/-- Keeps the last value of a repeated key. -/
def Closing.lastWins : Closing := fun members => .ok (object (Keyed.ofList members))

mutual

def readValue (closing : Closing) : Nat → List Char → Except ReadError (Json × List Char)
  | 0, chars => failAt .value chars
  | fuel + 1, chars =>
      match chars with
      | '"' :: rest => do
          let (text, left) ← readString rest
          .ok (str text, left)
      | '\x7b' :: rest => do
          match skipSpace rest with
          | '\x7d' :: left => .ok (← closing [], left)
          | start =>
              let (members, left) ← readMembers closing fuel start
              .ok (← closing members, left)
      | '[' :: rest =>
          match skipSpace rest with
          | ']' :: left => .ok (array [], left)
          | start => do
              let (items, left) ← readItems closing fuel start
              .ok (array items, left)
      | _ => readScalar chars

/-- The members of an object, from the first key to the closing brace. -/
def readMembers (closing : Closing) :
    Nat → List Char → Except ReadError (List (String × Json) × List Char)
  | 0, chars => failAt .propertyName chars
  | fuel + 1, chars =>
      match chars with
      | '"' :: rest => do
          let (key, afterKey) ← readString rest
          match skipSpace afterKey with
          | ':' :: afterColon =>
              let (value, afterValue) ← readValue closing fuel (skipSpace afterColon)
              match skipSpace afterValue with
              | '\x7d' :: left => .ok ([(key, value)], left)
              | ',' :: afterComma =>
                  let (members, left) ← readMembers closing fuel (skipSpace afterComma)
                  .ok ((key, value) :: members, left)
              | left => failAt .comma left
          | left => failAt .colon left
      | _ => failAt .propertyName chars

/-- The items of an array, from the first value to the closing bracket. -/
def readItems (closing : Closing) : Nat → List Char → Except ReadError (List Json × List Char)
  | 0, chars => failAt .value chars
  | fuel + 1, chars => do
      let (value, afterValue) ← readValue closing fuel chars
      match skipSpace afterValue with
      | ']' :: left => .ok ([value], left)
      | ',' :: afterComma =>
          let (items, left) ← readItems closing fuel (skipSpace afterComma)
          .ok (value :: items, left)
      | left => failAt .comma left

end

/-- Reads a whole text.  Every call of the reader consumes a character before the
next nested one, so the length of the text bounds them. -/
def readChars (closing : Closing) (chars : List Char) : Except ReadError Json :=
  match chars with
  | '\ufeff' :: _ => failAt .byteOrderMark chars
  | _ => do
      let (value, left) ← readValue closing (chars.length + 1) (skipSpace chars)
      match skipSpace left with
      | [] => .ok value
      | rest => failAt .extraData rest

def read (closing : Closing) (text : String) : Except ReadError Json :=
  readChars closing text.toList

/-! ## Positions -/

/-- Line, column and character offset of the place with so many characters left.
Lines and columns count from one, offsets from zero. -/
def placeText (chars : List Char) (remaining : Nat) : String :=
  let before := chars.take (chars.length - remaining)
  let line := before.count '\n' + 1
  let column := (before.reverse.takeWhile (· ≠ '\n')).length + 1
  "line " ++ toString line ++ " column " ++ toString column ++
    " (char " ++ toString before.length ++ ")"

/-- A fault with its place in the text. -/
def Fault.located (fault : Fault) (chars : List Char) (remaining : Nat) : String :=
  fault.message ++ ": " ++ placeText chars remaining

end Json
end RouteIR
