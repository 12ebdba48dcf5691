import RouteIR.Text.Digit

namespace RouteIR
namespace Address

/-!
# Numeric hosts

A host can be named by its number: four octets in decimal, or eight groups of sixteen bits in
hexadecimal, of which one row of zeros may be left out.
-/

def asciiNumber (digits : List Char) : Nat :=
  digits.foldl (fun value digit => value * 10 + (digit.toNat - '0'.toNat)) 0

/-- A number below 256 in decimal, without zeros in front. -/
def isOctet (text : List Char) : Bool :=
  !text.isEmpty && text.length ≤ 3 && text.all Char.isDigit &&
    (text.head? ≠ some '0' || text.length == 1) && asciiNumber text ≤ 255

/-- Whether a host looks like four numbers in decimal, and so has to be four octets. -/
def looksNumeric (host : List Char) : Bool :=
  let parts := host.splitOn '.'
  parts.length == 4 && parts.all fun part => !part.isEmpty && part.all Char.isDigit

def isQuad (text : List Char) : Bool := looksNumeric text && (text.splitOn '.').all isOctet

def isGroup (text : List Char) : Bool :=
  !text.isEmpty && text.length ≤ 4 && text.all fun char => (Text.hexValue? char).isSome

/-- The number of groups that are written in a row. -/
def groupCount? (text : List Char) : Option Nat :=
  if text.isEmpty then some 0
  else
    let parts := text.splitOn ':'
    if parts.all isGroup then some parts.length else none

/-- The number of groups in a row at the end, where four octets can stand for two groups. -/
def finalGroupCount? (text : List Char) : Option Nat :=
  let parts := text.splitOn ':'
  if parts.getLast?.any isQuad then
    if parts.dropLast.all isGroup then some (parts.length + 1) else none
  else groupCount? text

/-- What stands before and after the first two colons in a row. -/
def splitAtGap : List Char → Option (List Char × List Char)
  | ':' :: ':' :: rest => some ([], rest)
  | char :: rest => (splitAtGap rest).map fun (before, after) => (char :: before, after)
  | [] => none

/-- Eight groups, or fewer around a gap. -/
def isGroups (text : List Char) : Bool :=
  match splitAtGap text with
  | none => finalGroupCount? text == some 8
  | some (before, after) =>
      match groupCount? before, finalGroupCount? after with
      | some first, some last => first + last ≤ 7
      | _, _ => false

/-- Eight groups with the name of a zone after a percent sign, or without. -/
def isZoned (text : List Char) : Bool :=
  match text.dropWhile (· ≠ '%') with
  | [] => isGroups text
  | _ :: zone => isGroups (text.takeWhile (· ≠ '%')) && !zone.isEmpty && !zone.contains '%'

end Address
end RouteIR
