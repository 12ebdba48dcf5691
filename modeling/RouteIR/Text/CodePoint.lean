namespace RouteIR
namespace Text

/-!
# Code points

Escapes name characters by number.  A high and a low surrogate in a row are two halves of one
character beyond U+FFFF.  A text of this library is a sequence of characters, so that it always has
an encoding; a half by itself is no character, and U+FFFD stands in its place.
-/

def isHighSurrogate (code : Nat) : Bool := 0xD800 ≤ code && code < 0xDC00

def isLowSurrogate (code : Nat) : Bool := 0xDC00 ≤ code && code < 0xE000

/-- The character whose halves are the given surrogates. -/
def joinSurrogates (high low : Nat) : Char :=
  Char.ofNat (0x10000 + (high - 0xD800) * 0x400 + (low - 0xDC00))

/-- The character of a code point, or U+FFFD for a half without its partner. -/
def charOfCode (code : Nat) : Char :=
  if isHighSurrogate code || isLowSurrogate code then '\ufffd' else Char.ofNat code

/-- The characters that code points in a row denote. -/
def ofCodePoints : List Nat → List Char
  | [] => []
  | [code] => [charOfCode code]
  | code :: next :: rest =>
      if isHighSurrogate code && isLowSurrogate next then
        joinSurrogates code next :: ofCodePoints rest
      else charOfCode code :: ofCodePoints (next :: rest)

end Text
end RouteIR
