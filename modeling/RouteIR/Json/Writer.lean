import RouteIR.Json
import RouteIR.Text.Digit

namespace RouteIR
namespace Json

/-!
# Writing JSON text

The layout is fixed, so that equal values give equal text: two spaces a level, one
entry a line, a colon with one space, and empty containers on one line.  A string
escapes the quote, the backslash and control characters only.  A value with an integer of
too many digits is not written.
-/

/-- One character inside a string. -/
def writeChar (char : Char) : List Char :=
  if char = '"' then ['\\', '"']
  else if char = '\\' then ['\\', '\\']
  else if char = '\n' then ['\\', 'n']
  else if char = '\r' then ['\\', 'r']
  else if char = '\t' then ['\\', 't']
  else if char = '\x08' then ['\\', 'b']
  else if char = '\x0c' then ['\\', 'f']
  else if char.toNat < 0x20 then '\\' :: 'u' :: Text.hexDigits 4 char.toNat
  else [char]

def writeString (text : String) : List Char :=
  '"' :: text.toList.flatMap writeChar ++ ['"']

def writeFloat : Binary64 → List Char
  | .nan _ => "NaN".toList
  | .infinity negative => (if negative then "-Infinity" else "Infinity").toList
  | value => value.text.toList

/-- A new line at the given level. -/
def newline (level : Nat) : List Char := '\n' :: List.replicate (2 * level) ' '

mutual

def write (level : Nat) : Json → List Char
  | null => "null".toList
  | bool value => (if value then "true" else "false").toList
  | int value => (toString value).toList
  | float value => writeFloat value
  | str text => writeString text
  | array [] => ['[', ']']
  | array (item :: rest) =>
      '[' :: newline (level + 1) ++ write (level + 1) item ++ writeItems (level + 1) rest ++
        newline level ++ [']']
  | object [] => ['\x7b', '\x7d']
  | object ((key, value) :: rest) =>
      '\x7b' :: newline (level + 1) ++ writeString key ++ [':', ' '] ++ write (level + 1) value ++
        writeMembers (level + 1) rest ++ newline level ++ ['\x7d']

/-- The items after the first, each behind a comma on a line of its own. -/
def writeItems (level : Nat) : List Json → List Char
  | [] => []
  | item :: rest => ',' :: newline level ++ write level item ++ writeItems level rest

def writeMembers (level : Nat) : List (String × Json) → List Char
  | [] => []
  | (key, value) :: rest =>
      ',' :: newline level ++ writeString key ++ [':', ' '] ++ write level value ++
        writeMembers level rest

end

/-- The text of a value at the outermost level. -/
def render (value : Json) : String := String.ofList (write 0 value)

/-- What is written of a value: its text, where it has one. -/
def dump? (value : Json) : Option String := if value.isLegible then some value.render else none

/-! ## Scalars in plain ASCII -/

/-- The code units of a character in UTF-16. -/
def units16 (char : Char) : List Nat :=
  let code := char.toNat
  if code < 0x10000 then [code]
  else [0xD800 + (code - 0x10000) / 0x400, 0xDC00 + (code - 0x10000) % 0x400]

/-- One character inside a string that holds printable ASCII alone. -/
def writeAsciiChar (char : Char) : List Char :=
  if 0x20 ≤ char.toNat ∧ char.toNat < 0x7F ∨ char.toNat < 0x20 then writeChar char
  else (units16 char).flatMap fun unit => '\\' :: 'u' :: Text.hexDigits 4 unit

def asciiString (text : String) : String :=
  String.ofList ('"' :: text.toList.flatMap writeAsciiChar ++ ['"'])

end Json
end RouteIR
