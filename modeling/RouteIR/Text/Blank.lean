namespace RouteIR
namespace Text

/-!
# Blank characters

White space are the characters with the Unicode property White_Space.  The four information
separators U+001C to U+001F are blank too: a text of blanks is empty, while around a number
only white space is passed over.
-/

def isWhiteSpace (char : Char) : Bool :=
  let code := char.toNat
  (0x09 ≤ code && code ≤ 0x0D) || code == 0x20 || code == 0x85 || code == 0xA0 ||
    code == 0x1680 || (0x2000 ≤ code && code ≤ 0x200A) || code == 0x2028 || code == 0x2029 ||
    code == 0x202F || code == 0x205F || code == 0x3000

def isBlank (char : Char) : Bool :=
  isWhiteSpace char || (0x1C ≤ char.toNat && char.toNat ≤ 0x1F)

/-- Whether a text holds nothing but blank characters. -/
def isBlankText (text : String) : Bool := text.toList.all isBlank

/-- A text without the characters of a class at its two ends. -/
def trim (inClass : Char → Bool) (chars : List Char) : List Char :=
  ((chars.dropWhile inClass).reverse.dropWhile inClass).reverse

def trimWhiteSpace (chars : List Char) : List Char := trim isWhiteSpace chars

def trimBlanks (chars : List Char) : List Char := trim isBlank chars

/-- A text without one line feed at its end. -/
def dropFinalNewline (chars : List Char) : List Char :=
  if chars.getLast? = some '\n' then chars.dropLast else chars

end Text
end RouteIR
