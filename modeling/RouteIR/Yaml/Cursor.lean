import RouteIR.Yaml.Failure

namespace RouteIR
namespace Yaml

/-!
# Moving through a YAML text

A cursor holds the characters that are left and the place reached.  Scanning is a
state over cursors that may fail; the end of the text shows as an absent
character.
-/

structure Cursor where
  rest : List Char
  mark : Mark
  /-- More than the number of characters that are left. -/
  bound : Nat
deriving Repr

def Cursor.start (text : List Char) : Cursor := ⟨text, ⟨0, 0, 0⟩, text.length + 1⟩

/-- A line ends behind every break, and behind the second character of a carriage
return and line feed.  A byte order mark takes no column. -/
def Mark.past (char : Char) (rest : List Char) (mark : Mark) : Mark :=
  let endsLine := char ≠ '\r' && isBreak char || (char = '\r' && rest.head? ≠ some '\n')
  if endsLine then ⟨mark.index + 1, mark.line + 1, 0⟩
  else if char = '\ufeff' then ⟨mark.index + 1, mark.line, mark.column⟩
  else ⟨mark.index + 1, mark.line, mark.column + 1⟩

/-- The cursor behind the given number of characters. -/
def Cursor.forward : Nat → Cursor → Cursor
  | 0, cursor => cursor
  | count + 1, ⟨char :: rest, mark, bound⟩ => forward count ⟨rest, mark.past char rest, bound⟩
  | _ + 1, ⟨[], mark, bound⟩ => ⟨[], mark, bound⟩

/-- A scanning step. -/
abbrev Scan := StateT Cursor (Except Failure)

namespace Scan

def reject {α : Type} : Scan α := throw .syntaxError

def mark : Scan Mark := return (← get).mark

def column : Scan Nat := return (← get).mark.column

def peek : Scan (Option Char) := return (← get).rest.head?

def peekAt (offset : Nat) : Scan (Option Char) := return (← get).rest[offset]?

def ahead (count : Nat) : Scan (List Char) := return (← get).rest.take count

def forward (count : Nat) : Scan Unit := modify (·.forward count)

/-- A bound for loops that consume a character in each round. -/
def bound : Scan Nat := return (← get).bound

/-- Consumes the longest run of characters with a property. -/
def takeWhile (keep : Char → Bool) : Scan (List Char) := do
  let run := (← get).rest.takeWhile keep
  forward run.length
  return run

def skipSpaces : Scan Unit := do
  let _ ← takeWhile (· = ' ')

end Scan

/-! ## Character classes -/

/-- The end of the text or of a line. -/
def endsLine : Option Char → Bool
  | none => true
  | some char => isBreak char

/-- The end of the text or of a line, or a space. -/
def endsPart : Option Char → Bool
  | none => true
  | some char => char = ' ' || isBreak char

/-- The end of the text or of a line, a space or a tab. -/
def endsWord : Option Char → Bool
  | none => true
  | some char => char = ' ' || char = '\t' || isBreak char

def isDecimal (char : Char) : Bool := '0' ≤ char && char ≤ '9'

def isHex (char : Char) : Bool :=
  isDecimal char || ('a' ≤ char && char ≤ 'f') || ('A' ≤ char && char ≤ 'F')

/-- The characters of names: anchors, directives and tag handles. -/
def isName (char : Char) : Bool :=
  isDecimal char || ('a' ≤ char && char ≤ 'z') || ('A' ≤ char && char ≤ 'Z') ||
    char = '-' || char = '_'

/-- The characters of tags beside letters and digits. -/
def isTagPart (char : Char) : Bool :=
  isName char || "-;/?:@&=+$,_.!~*'()[]%".toList.contains char

/-- The characters that a text may hold at all. -/
def isAllowed (char : Char) : Bool :=
  let code := char.toNat
  code = 0x09 || code = 0x0A || code = 0x0D || (0x20 ≤ code && code ≤ 0x7E) || code = 0x85 ||
    (0xA0 ≤ code && code ≤ 0xD7FF) || (0xE000 ≤ code && code ≤ 0xFFFD) || 0x10000 ≤ code

namespace Scan

/-- Consumes a line break, if there is one, and gives it in its normal form. -/
def lineBreak? : Scan (Option Char) := do
  match ← peek with
  | some '\u2028' => forward 1; return some '\u2028'
  | some '\u2029' => forward 1; return some '\u2029'
  | some char =>
      if isBreak char then
        forward (if (← ahead 2) = ['\r', '\n'] then 2 else 1)
        return some '\n'
      else return none
  | none => return none

/-- Whether three hyphens or three points stand here as a word of their own. -/
def atDocumentBoundary : Scan Bool := do
  let word ← ahead 3
  return (word = ['-', '-', '-'] || word = ['.', '.', '.']) && endsWord (← peekAt 3)

/-- The rest of a line that may hold a comment only. -/
def ignoredLine : Scan Unit := do
  skipSpaces
  if (← peek) = some '#' then
    let _ ← takeWhile (!isBreak ·)
  if !endsLine (← peek) then reject
  let _ ← lineBreak?

end Scan
end Yaml
end RouteIR
