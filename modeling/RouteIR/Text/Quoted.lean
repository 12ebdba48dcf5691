import RouteIR.Text.Digit
import RouteIR.Text.Printable

namespace RouteIR
namespace Text

/-!
# Quoted literals

A text is quoted so that its unprintable characters become visible.  Apostrophes
delimit the literal unless the text holds an apostrophe and no double quote; the
delimiter and the backslash are escaped inside.  A byte string is quoted in the
same way, with every byte outside printable ASCII in hexadecimal.
-/

/-- The delimiter of a literal with the given contents. -/
def delimiter (holdsApostrophe holdsQuote : Bool) : Char :=
  if holdsApostrophe && !holdsQuote then '"' else '\''

/-- One character inside a literal with the given delimiter. -/
def quoteChar (delimiter char : Char) : List Char :=
  if char = delimiter ∨ char = '\\' then ['\\', char]
  else if char = '\n' then ['\\', 'n']
  else if char = '\r' then ['\\', 'r']
  else if char = '\t' then ['\\', 't']
  else if isPrintable char then [char]
  else if char.toNat < 0x100 then '\\' :: 'x' :: hexDigits 2 char.toNat
  else if char.toNat < 0x10000 then '\\' :: 'u' :: hexDigits 4 char.toNat
  else '\\' :: 'U' :: hexDigits 8 char.toNat

def quote (text : String) : String :=
  let chars := text.toList
  let mark := delimiter (chars.contains '\'') (chars.contains '"')
  String.ofList (mark :: chars.flatMap (quoteChar mark) ++ [mark])

/-- One byte inside a literal with the given delimiter. -/
def quoteByte (delimiter : Char) (byte : UInt8) : List Char :=
  let char := Char.ofNat byte.toNat
  if char = delimiter ∨ char = '\\' then ['\\', char]
  else if char = '\n' then ['\\', 'n']
  else if char = '\r' then ['\\', 'r']
  else if char = '\t' then ['\\', 't']
  else if 0x20 ≤ byte ∧ byte < 0x7F then [char]
  else '\\' :: 'x' :: hexDigits 2 byte.toNat

def quoteBytes (bytes : List UInt8) : String :=
  let mark := delimiter (bytes.contains 0x27) (bytes.contains 0x22)
  String.ofList ('b' :: mark :: bytes.flatMap (quoteByte mark) ++ [mark])

end Text
end RouteIR
