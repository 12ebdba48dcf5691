import RouteIR.Text.CodePoint
import RouteIR.Text.Digit

namespace RouteIR
namespace Text
namespace Escaped

/-!
# Escaped text

A text can be written in bytes that are the characters of the same numbers, with a backslash
before what stands for another character.  An escape that is cut short is replaced as far as it
goes.
-/

/-- The hexadecimal digits at the start, up to the given number, with what follows. -/
def takeDigits (count : Nat) (chars : List Char) : List Char × List Char :=
  let digits := (chars.take count).takeWhile fun char => (hexValue? char).isSome
  (digits, chars.drop digits.length)

/-- A character by its number, which has the given count of digits. -/
def numbered (count : Nat) (chars : List Char) : Char × List Char :=
  let (digits, rest) := takeDigits count chars
  let code := (hexNumber? digits).getD 0
  (if digits.length = count ∧ code ≤ 0x10FFFF then charOfCode code else '\ufffd', rest)

/-- How many digits follow a letter that introduces a number. -/
def digitCount? : Char → Option Nat
  | 'u' => some 4
  | 'U' => some 8
  | _ => none

/-- The character that a single character after a backslash stands for. -/
def single? : Char → Option Char
  | '\\' => some '\\'
  | '\'' => some '\''
  | '"' => some '"'
  | 'a' => some '\x07'
  | 'b' => some '\x08'
  | 't' => some '\t'
  | 'n' => some '\n'
  | 'v' => some '\x0b'
  | 'f' => some '\x0c'
  | 'r' => some '\r'
  | _ => none

def isOctal (char : Char) : Bool := '0' ≤ char && char ≤ '7'

/-- A character by its name in braces.  No names are known. -/
def named (chars : List Char) : List Char × List Char :=
  match chars with
  | '\x7b' :: rest =>
      let name := rest.takeWhile (· ≠ '\x7d')
      (['\ufffd'], if name.isEmpty then rest else rest.drop (name.length + 1))
  | _ => (['\ufffd'], chars)

/-- What an escape stands for, given what follows its backslash, and what comes after it. -/
def escape (rich : Bool) (letter : Char) (rest : List Char) : List Char × List Char :=
  match digitCount? letter with
  | some count =>
      let (char, rest) := numbered count rest
      ([char], rest)
  | none =>
      if !rich then (['\\', letter], rest)
      else if letter = '\n' then ([], rest)
      else if letter = 'x' then
        let (char, rest) := numbered 2 rest
        ([char], rest)
      else if letter = 'N' then named rest
      else if isOctal letter then
        let digits := letter :: (rest.take 2).takeWhile isOctal
        let code := digits.foldl (fun value digit => value * 8 + (digit.toNat - '0'.toNat)) 0
        ([Char.ofNat code], rest.drop (digits.length - 1))
      else match single? letter with
        | some char => ([char], rest)
        | none => (['\\', letter], rest)

/-- The characters of an escaped text.  Where escapes are few, only numbers with four and eight
digits are; a backslash at the end is an escape cut short, unless they are few.  Every step
takes a character at least. -/
def unescape (rich : Bool) : Nat → List Char → List Char
  | 0, _ => []
  | _, [] => []
  | _, ['\\'] => [if rich then '\ufffd' else '\\']
  | fuel + 1, '\\' :: letter :: rest =>
      let (chars, rest) := escape rich letter rest
      chars ++ unescape rich fuel rest
  | fuel + 1, char :: rest => char :: unescape rich fuel rest

def decode (rich : Bool) (bytes : List UInt8) : List Char :=
  unescape rich (bytes.length + 1) (bytes.map fun byte => Char.ofNat byte.toNat)

end Escaped
end Text
end RouteIR
