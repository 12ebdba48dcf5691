import RouteIR.Text.Blank
import RouteIR.Text.Digit

namespace RouteIR
namespace Source

/-!
# Content types

A content type names a kind of document, and after semicolons come parameters: names with
values, which may be quoted.  A long value can be spread over several parameters with numbers,
and a star after a name says that the value is percent-encoded and begins with a charset and a
language.
-/

structure Parameter where
  name : List Char
  value : List Char
deriving DecidableEq, Repr

def splitAtFirst (mark : Char) (text : List Char) : List Char × Option (List Char) :=
  match text.dropWhile (· ≠ mark) with
  | [] => (text, none)
  | _ :: rest => (text.takeWhile (· ≠ mark), some rest)

/-- The parts between semicolons that no quotes enclose.  A quote after a backslash neither
opens nor closes anything. -/
def splitParts (part : List Char) (quoted : Bool) : List Char → List (List Char)
  | [] => [part.reverse]
  | char :: rest =>
      if char = ';' ∧ !quoted then part.reverse :: splitParts [] false rest
      else
        let toggles := char == '"' && part.head? ≠ some '\\'
        splitParts (char :: part) (quoted != toggles) rest

/-- What a backslash protects, without it. -/
def unescape : List Char → List Char
  | '\\' :: char :: rest =>
      if char = '\\' ∨ char = '"' then char :: unescape rest else '\\' :: unescape (char :: rest)
  | char :: rest => char :: unescape rest
  | [] => []

/-- A value without the quotes or angle brackets around it. -/
def unquote (value : List Char) : List Char :=
  if value.length < 2 then value
  else match value.head?, value.getLast? with
    | some '"', some '"' => unescape value.tail.dropLast
    | some '<', some '>' => value.tail.dropLast
    | _, _ => value

def Parameter.ofText (text : List Char) : Parameter :=
  let (name, value) := splitAtFirst '=' text
  ⟨(Text.trimBlanks name).map Char.toLower, unquote (Text.trimBlanks (value.getD []))⟩

/-- The kind and the parameters of a content type.  The kind counts as a parameter, as one can
stand in its place. -/
def parametersOf (contentType : String) : List Parameter :=
  (splitParts [] false contentType.toList).map .ofText

/-- Characters written as a percent sign and two hexadecimal digits. -/
def percentDecode : List Char → List Char
  | '%' :: high :: low :: rest =>
      match Text.hexNumber? [high, low] with
      | some code => Char.ofNat code :: percentDecode rest
      | none => '%' :: percentDecode (high :: low :: rest)
  | char :: rest => char :: percentDecode rest
  | [] => []

/-- A piece of a value: its number, absent for a value in one piece. -/
structure Piece where
  number : Option Nat
  encoded : Bool
  text : List Char

/-- A parameter as a piece of the value of the given name. -/
def Parameter.piece? (parameter : Parameter) (name : List Char) : Option Piece := do
  let (own, rest) := splitAtFirst '*' parameter.name
  let rest ← rest
  if own ≠ name then none
  let digits := if rest.getLast? = some '*' then rest.dropLast else rest
  if rest.isEmpty then return ⟨none, true, parameter.value⟩
  if digits.isEmpty || !digits.all Char.isDigit then none
  let number := digits.foldl (fun value digit => value * 10 + (digit.toNat - '0'.toNat)) 0
  return ⟨some number, rest.getLast? == some '*', parameter.value⟩

/-- A value without the charset and the language in front of it, if it has them. -/
def dropLanguage (value : List Char) : List Char :=
  match splitAtFirst '\'' value with
  | (_, some rest) => (splitAtFirst '\'' rest).2.getD value
  | (_, none) => value

/-- The value of pieces. -/
def joinPieces (pieces : List Piece) : List Char :=
  let ordered := pieces.mergeSort fun first second => first.number.getD 0 ≤ second.number.getD 0
  let value := ordered.flatMap fun piece =>
    if piece.encoded then percentDecode piece.text else piece.text
  if pieces.any (·.encoded) then dropLanguage value else value

/-- The value of a parameter; one that stands in one place comes before pieces.  The kind of the
document is no piece. -/
def parameter? (name : String) (contentType : String) : Option (List Char) :=
  let parameters := parametersOf contentType
  match parameters.find? (·.name = name.toList) with
  | some parameter => some parameter.value
  | none =>
      let pieces := (parameters.drop 1).filterMap (·.piece? name.toList)
      if pieces.isEmpty then none else some (joinPieces pieces)

/-- The name of the charset that a content type tells, if it is in ASCII. -/
def charsetName? (contentType : String) : Option String :=
  ((parameter? "charset" contentType).filter fun value => value.all fun char => char.toNat < 0x80).map
    String.ofList

end Source
end RouteIR
