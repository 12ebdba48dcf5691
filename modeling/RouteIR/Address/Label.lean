import RouteIR.Address.LabelCharacter
import RouteIR.Text.Composition
import RouteIR.Text.Direction
import RouteIR.Text.Joining
import RouteIR.Text.Punycode

namespace RouteIR
namespace Address

/-!
# Labels of international host names

A label is a word between full stops.  Its characters may be of any script, but it has to be
in normal form, some characters need others beside them, and in a label that holds anything
written from right to left the directions must not mix.
-/

/-- Why a text is no label; of several reasons, the first of this list. -/
inductive LabelFault where
  | form
  /-- A character that no label may hold, or that needs others beside it, whichever comes
  first. -/
  | character
  | neighbour
  | direction
deriving DecidableEq, Repr

/-! ## Characters that need others beside them -/

/-- The class of the marks that take the vowel from a letter. -/
def killerClass : Nat := 9

def follows (accepted : Char → Bool) (before : List Char) : Bool := before.head?.any accepted

/-- Whether a character that joins nothing may keep two letters apart: it has to follow a mark
that takes the vowel, or the letters would join. -/
def keepsApart (before after : List Char) : Bool :=
  let nearest (chars : List Char) : Text.Joining :=
    ((chars.map Text.joining).find? (· ≠ .transparent)).getD .none
  follows (fun char => Text.combiningClass char == killerClass) before ||
    ((nearest before == .both || nearest before == .after) &&
      (nearest after == .both || nearest after == .before))

def isGreek : Char → Bool := Text.inRanges [(0x370, 0x3E1), (0x3F0, 0x3FF), (0x1D26, 0x1D2A),
  (0x1F00, 0x1FFF), (0xAB65, 0xAB65), (0x10140, 0x1018E)]

def isHebrew : Char → Bool := Text.inRanges [(0x591, 0x5F4), (0xFB1D, 0xFB4F)]

/-- The scripts that Japanese is written in. -/
def isJapanese : Char → Bool := Text.inRanges [(0x2E80, 0x2FD5), (0x3005, 0x3005), (0x3007, 0x3007),
  (0x3021, 0x3029), (0x3038, 0x303B), (0x3041, 0x3096), (0x309D, 0x309F), (0x30A1, 0x30FA),
  (0x30FD, 0x30FF), (0x31F0, 0x31FF), (0x3400, 0x4DBF), (0x4E00, 0x9FFF), (0xF900, 0xFAD9),
  (0x16FE3, 0x16FE3), (0x16FF0, 0x16FF1), (0x1AFF0, 0x1B122), (0x1B150, 0x1B152), (0x1B164, 0x1B167),
  (0x20000, 0x2FFFF), (0x30000, 0x3134A)]

def isArabicDigit : Char → Bool := Text.inRanges [(0x660, 0x669)]

def isPersianDigit : Char → Bool := Text.inRanges [(0x6F0, 0x6F9)]

/-- Whether a character that is not free to stand anywhere may stand between those before it, the
nearest first, and those after it; absent for one that may stand nowhere. -/
def fits? (label before after : List Char) (char : Char) : Option Bool :=
  let killed := follows (fun other => Text.combiningClass other == killerClass)
  if char = '\u200C' then some (keepsApart before after)
  else if char = '\u200D' then some (killed before)
  else if char = '·' then some (follows (· == 'l') before && follows (· == 'l') after)
  else if char = '\u0375' then some (follows isGreek after)
  else if char = '\u05F3' ∨ char = '\u05F4' then some (follows isHebrew before)
  else if char = '\u30FB' then some (label.any isJapanese)
  else if isArabicDigit char then some (!label.any isPersianDigit)
  else if isPersianDigit char then some (!label.any isArabicDigit)
  else none

/-- Checks the characters of a label; some of them have been passed, the last one first. -/
def checkCharacters (label before : List Char) : List Char → Except LabelFault Unit
  | [] => .ok ()
  | char :: after =>
      if isLabelCharacter char then checkCharacters label (char :: before) after
      else match fits? label before after char with
        | some true => checkCharacters label (char :: before) after
        | some false => .error .neighbour
        | none => .error .character

/-! ## Directions -/

/-- Whether the directions of a label's characters go together.  A label that nothing in is
written from right to left is free.  Else its first character tells the direction of the whole:
no character of the other direction occurs, a letter or a number ends the label, and the two
kinds of numbers do not mix. -/
def directionsAgree (label : List Char) : Bool :=
  let directions := label.map Text.direction
  let ending := directions.reverse.find? (· ≠ .mark)
  if !(directions.contains .rightToLeft || directions.contains .arabicNumber) then true
  else match directions.head? with
    | some .rightToLeft =>
        !directions.contains .leftToRight &&
          (ending == some .rightToLeft || ending == some .europeanNumber ||
            ending == some .arabicNumber) &&
          !(directions.contains .europeanNumber && directions.contains .arabicNumber)
    | _ => false

/-! ## Labels -/

/-- A hyphen stands neither at an end nor at the third and fourth place both. -/
def hyphensFit (label : List Char) : Bool :=
  label.head? ≠ some '-' && label.getLast? ≠ some '-' && (label.drop 2).take 2 ≠ ['-', '-']

/-- Checks that a text in lower case is a label. -/
def checkLabel (label : List Char) : Except LabelFault Unit := do
  if label.isEmpty || Text.normalForm label ≠ label || !hyphensFit label ||
      label.head?.any Text.isMark then throw .form
  checkCharacters label [] label
  if !directionsAgree label then throw .direction

def isAscii (chars : List Char) : Bool := chars.all fun char => char.toNat < 0x80

/-- What tells that a label is encoded. -/
def encodingMark : List Char := ['x', 'n', '-', '-']

/-- Checks that a label in ASCII is one, or encodes one. -/
def checkAsciiLabel (label : List Char) : Except LabelFault Unit :=
  if encodingMark.isPrefixOf label then
    let encoded := label.drop encodingMark.length
    if encoded.isEmpty || encoded.getLast? = some '-' then .error .form
    else match Text.Punycode.decode? encoded with
      | some decoded => checkLabel decoded
      | none => .error .form
  else checkLabel label

def maxLabelLength : Nat := 63

/-- The length of a label as it goes over the network, absent for what is no label. -/
def labelLength? (label : List Char) : Option Nat :=
  if maxLabelLength < label.length then none
  else if isAscii label then (checkAsciiLabel label).toOption.map fun _ => label.length
  else
    let length := encodingMark.length + (Text.Punycode.encode label).length
    if length ≤ maxLabelLength then (checkLabel label).toOption.map fun _ => length else none

/-- The full stops of several scripts, all of which end a label. -/
def isFullStop (char : Char) : Bool :=
  char = '.' || char = '\u3002' || char = '\uFF0E' || char = '\uFF61'

def maxNameLength : Nat := 253

/-- The labels of a host name.  One more full stop may end it. -/
def labelsOf (name : List Char) : List (List Char) :=
  let parts := name.splitOnP isFullStop
  if parts.getLast? = some [] then parts.dropLast else parts

/-- Whether a host name in several scripts can go over the network. -/
def isInternationalName (name : List Char) : Bool :=
  match (labelsOf name).mapM labelLength? with
  | some (length :: lengths) =>
      lengths.foldl (fun sum length => sum + 1 + length) length ≤ maxNameLength
  | _ => false

/-- Checks the labels of a host name in ASCII that starts with an encoded one.  Other names in
ASCII need not consist of labels. -/
def checkEncodedName (name : List Char) : Except LabelFault Unit :=
  if encodingMark.isPrefixOf name then (labelsOf name).forM checkAsciiLabel else .ok ()

end Address
end RouteIR
