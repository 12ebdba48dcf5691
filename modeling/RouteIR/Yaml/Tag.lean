import RouteIR.Text.Blank
import RouteIR.Yaml.Cursor

namespace RouteIR
namespace Yaml

/-!
# The tags of plain scalars

A plain scalar without tag gets the tag of the first form that it has: truth
value, floating-point number, integer, merge key, null, time stamp, value key, and
text otherwise.  The forms are those of YAML 1.1, with numbers in base sixty and
underscores between digits.
-/

namespace Tag

/-- The name space of the standard tags. -/
def core (name : String) : String := "tag:yaml.org,2002:" ++ name

def truthWords : List String :=
  ["yes", "Yes", "YES", "no", "No", "NO", "true", "True", "TRUE", "false", "False", "FALSE",
    "on", "On", "ON", "off", "Off", "OFF"]

def nullWords : List String := ["~", "null", "Null", "NULL", ""]

def dropSign : List Char → List Char
  | '+' :: rest => rest
  | '-' :: rest => rest
  | chars => chars

def isDecimalOrGap (char : Char) : Bool := isDecimal char || char = '_'

def isHexOrGap (char : Char) : Bool := isHex char || char = '_'

def isNonempty (chars : List Char) (keep : Char → Bool) : Bool :=
  !chars.isEmpty && chars.all keep

/-- An exponent with its obligatory sign, or nothing. -/
def isExponentOrEmpty : List Char → Bool
  | [] => true
  | letter :: sign :: digits =>
      (letter = 'e' || letter = 'E') && (sign = '+' || sign = '-') && isNonempty digits isDecimal
  | _ => false

/-- The places below the leading one of a number in base sixty, each behind a colon,
and what follows them.  There must be one place at least. -/
def dropSixtieths : Nat → List Char → Option (List Char)
  | 0, _ => none
  | fuel + 1, ':' :: tens :: ones :: rest =>
      let after :=
        if '0' ≤ tens && tens ≤ '5' && isDecimal ones then some rest
        else if isDecimal tens then some (ones :: rest)
        else none
      after.map fun left => (dropSixtieths fuel left).getD left
  | _ + 1, [':', ones] => if isDecimal ones then some [] else none
  | _ + 1, _ => none

/-- Digits and gaps that start with a digit, and what follows them. -/
def dropDigits : List Char → Option (List Char)
  | digit :: rest => if isDecimal digit then some (rest.dropWhile isDecimalOrGap) else none
  | [] => none

def isFloat (chars : List Char) : Bool :=
  let unsigned := dropSign chars
  let withPoint := match dropDigits unsigned with
    | some ('.' :: rest) => isExponentOrEmpty (rest.dropWhile isDecimalOrGap)
    | some rest =>
        match dropSixtieths rest.length rest with
        | some ('.' :: fraction) => fraction.all isDecimalOrGap
        | _ => false
    | none => false
  let onlyFraction := match chars with
    | '.' :: rest => (dropDigits rest).any isExponentOrEmpty
    | _ => false
  let word := String.ofList unsigned
  let infinite := word = ".inf" || word = ".Inf" || word = ".INF"
  let text := String.ofList chars
  withPoint || onlyFraction || infinite || text = ".nan" || text = ".NaN" || text = ".NAN"

def isInt (chars : List Char) : Bool :=
  match dropSign chars with
  | ['0'] => true
  | '0' :: 'b' :: digits => isNonempty digits fun char => char = '0' || char = '1' || char = '_'
  | '0' :: 'x' :: digits => isNonempty digits isHexOrGap
  | '0' :: digits => digits.all fun char => ('0' ≤ char && char ≤ '7') || char = '_'
  | first :: rest =>
      isDecimal first &&
        match rest.dropWhile isDecimalOrGap with
        | [] => true
        | places => dropSixtieths places.length places = some []
  | [] => false

/-! ## Time stamps -/

/-- The distance from universal time as written; `Z` has neither hours nor minutes. -/
structure StampOffset where
  negative : Bool
  hours : List Char
  minutes : List Char
deriving DecidableEq, Repr

/-- The time of day of a time stamp as written. -/
structure StampClock where
  hour : List Char
  minute : List Char
  second : List Char
  fraction : List Char
  offset : Option StampOffset
deriving DecidableEq, Repr

/-- The parts of a time stamp as written. -/
structure Stamp where
  year : List Char
  month : List Char
  day : List Char
  clock : Option StampClock
deriving DecidableEq, Repr

/-- Digits at the front, between the given counts. -/
def takeDigits (least most : Nat) (chars : List Char) : Option (List Char × List Char) :=
  let digits := (chars.take most).takeWhile isDecimal
  if digits.length < least then none else some (digits, chars.drop digits.length)

def takeChar (wanted : Char) : List Char → Option (List Char)
  | char :: rest => if char = wanted then some rest else none
  | [] => none

def isGap (char : Char) : Bool := char = ' ' || char = '\t'

/-- The offset at the end of a time stamp: a letter for universal time, or a sign with
hours and perhaps minutes.  A missing offset is no offset. -/
def takeOffset (chars : List Char) : Option (Option StampOffset) :=
  match chars.dropWhile isGap with
  | ['Z'] => some (some ⟨false, [], []⟩)
  | sign :: rest =>
      if sign = '+' ∨ sign = '-' then do
        let (hours, left) ← takeDigits 1 2 rest
        match left with
        | [] => some (some ⟨sign = '-', hours, []⟩)
        | ':' :: after => do
            let (minutes, last) ← takeDigits 2 2 after
            if last.isEmpty then some (some ⟨sign = '-', hours, minutes⟩) else none
        | _ => none
      else none
  | [] => if chars.isEmpty then some none else none

/-- The time of day behind the date. -/
def takeClock (chars : List Char) : Option StampClock := do
  let afterGap ← match chars with
    | 'T' :: rest => some rest
    | 't' :: rest => some rest
    | char :: rest => if isGap char then some (rest.dropWhile isGap) else none
    | [] => none
  let (hour, rest) ← takeDigits 1 2 afterGap
  let (minute, rest) ← takeDigits 2 2 (← takeChar ':' rest)
  let (second, rest) ← takeDigits 2 2 (← takeChar ':' rest)
  let (fraction, rest) := match rest with
    | '.' :: digits => (digits.takeWhile isDecimal, digits.dropWhile isDecimal)
    | _ => ([], rest)
  let offset ← takeOffset rest
  return ⟨hour, minute, second, fraction, offset⟩

def stamp? (chars : List Char) : Option Stamp := do
  let (year, rest) ← takeDigits 4 4 chars
  let (month, rest) ← takeDigits 1 2 (← takeChar '-' rest)
  let (day, rest) ← takeDigits 1 2 (← takeChar '-' rest)
  if rest.isEmpty then return ⟨year, month, day, none⟩
  return ⟨year, month, day, some (← takeClock rest)⟩

/-- A plain scalar is a time stamp if it has a time of day, or two digits for month and
day. -/
def isTimestamp (chars : List Char) : Bool :=
  match stamp? chars with
  | some stamp => stamp.clock.isSome || (stamp.month.length = 2 && stamp.day.length = 2)
  | none => false

/-- What of a text decides on its form: one line feed at the end is passed over, unless
it is all there is. -/
def decisive : List Char → List Char
  | [char] => [char]
  | chars => Text.dropFinalNewline chars

/-- The tag of a plain scalar that has none of its own. -/
def ofPlain (content : String) : String :=
  let chars := decisive content.toList
  let text := String.ofList chars
  if truthWords.contains text then core "bool"
  else if isFloat chars then core "float"
  else if isInt chars then core "int"
  else if text = "<<" then core "merge"
  else if nullWords.contains text then core "null"
  else if isTimestamp chars then core "timestamp"
  else if text = "=" then core "value"
  else if text = "!" || text = "&" || text = "*" then core "yaml"
  else core "str"

end Tag
end Yaml
end RouteIR
