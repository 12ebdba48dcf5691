import RouteIR.Text.CodePoint
import RouteIR.Text.Digit
import RouteIR.Yaml.Cursor

namespace RouteIR
namespace Yaml
namespace Scan

/-!
# Scanning scalars

The three styles of scalar: quoted text, in which line breaks fold and, between
double quotes, escapes are read; block text behind a bar or an angle bracket; and
plain text, which ends where the grammar around it could go on.  Escapes name code points,
so quoted text is a sequence of those until it has been read to its end.
-/

/-! ## Quoted text -/

/-- The character that a letter after a backslash stands for. -/
def escaped? : Char → Option Char
  | '0' => some '\x00'
  | 'a' => some '\x07'
  | 'b' => some '\x08'
  | 't' => some '\t'
  | '\t' => some '\t'
  | 'n' => some '\n'
  | 'v' => some '\x0b'
  | 'f' => some '\x0c'
  | 'r' => some '\r'
  | 'e' => some '\x1b'
  | ' ' => some ' '
  | '"' => some '"'
  | '\\' => some '\\'
  | '/' => some '/'
  | 'N' => some '\x85'
  | '_' => some '\xa0'
  | 'L' => some '\u2028'
  | 'P' => some '\u2029'
  | _ => none

/-- How many hexadecimal digits follow a letter that introduces a code point. -/
def escapeWidth? : Char → Option Nat
  | 'x' => some 2
  | 'u' => some 4
  | 'U' => some 8
  | _ => none

/-- Refuses the number of no code point. -/
def checkCode (code : Nat) : Scan Unit :=
  if code < 0x110000 then return
  else if code < 0x80000000 then throw .invalidNumber
  else throw .hugeEscape

/-- Empty lines inside quoted text, as the breaks they stand for. -/
def quotedBreaks : Nat → Scan (List Char)
  | 0 => return []
  | fuel + 1 => do
      if ← atDocumentBoundary then reject
      let _ ← takeWhile fun char => char = ' ' || char = '\t'
      match ← lineBreak? with
      | none => return []
      | some char => return char :: (← quotedBreaks fuel)

/-- A line break and the empty lines after it fold into a space, or into the breaks
beyond the first. -/
def foldBreaks (first : Char) (others : List Char) : List Char :=
  if first ≠ '\n' then first :: others
  else if others.isEmpty then [' ']
  else others

def quotedSpaces : Scan (List Char) := do
  let spaces ← takeWhile fun char => char = ' ' || char = '\t'
  match ← peek with
  | none => reject
  | some _ =>
      match ← lineBreak? with
      | none => return spaces
      | some first => return foldBreaks first (← quotedBreaks (← bound))

def codesOf (chars : List Char) : List Nat := chars.map Char.toNat

/-- The code points that an escape stands for; the backslash has been consumed. -/
def escapeSequence : Scan (List Nat) := do
  match ← peek with
  | none => reject
  | some letter =>
      match escaped? letter, escapeWidth? letter with
      | some char, _ => forward 1; return [char.toNat]
      | none, some width =>
          forward 1
          let digits ← ahead width
          match Text.hexNumber? digits with
          | some code =>
              if digits.length < width then reject
              checkCode code
              forward width
              return [code]
          | none => reject
      | none, none =>
          match ← lineBreak? with
          | none => reject
          | some _ => return codesOf (← quotedBreaks (← bound))

def quotedWords (double : Bool) : Nat → Scan (List Nat)
  | 0 => return []
  | fuel + 1 => do
      let run := codesOf (← takeWhile fun char =>
        !(char = '\'' || char = '"' || char = '\\' || endsWord (some char)))
      match ← peek with
      | some '\'' =>
          if double then
            forward 1
            return run ++ '\''.toNat :: (← quotedWords double fuel)
          else if (← peekAt 1) = some '\'' then
            forward 2
            return run ++ '\''.toNat :: (← quotedWords double fuel)
          else return run
      | some '"' =>
          if double then return run
          forward 1
          return run ++ '"'.toNat :: (← quotedWords double fuel)
      | some '\\' =>
          forward 1
          let piece ← if double then escapeSequence else pure ['\\'.toNat]
          return run ++ piece ++ (← quotedWords double fuel)
      | _ => return run

/-- The rest of quoted text, up to and with the closing quote. -/
def quotedRest (quote : Char) : Nat → Scan (List Nat)
  | 0 => reject
  | fuel + 1 => do
      let words ← quotedWords (quote = '"') (← bound)
      if (← peek) = some quote then
        forward 1
        return words
      let spaces ← quotedSpaces
      return words ++ codesOf spaces ++ (← quotedRest quote fuel)

def quotedScalar (quote : Char) : Scan (List Char) := do
  forward 1
  return Text.ofCodePoints (← quotedRest quote (← bound))

/-! ## Block text -/

/-- What happens to the line breaks at the end of block text. -/
inductive Chomping where
  | strip
  | clip
  | keep
deriving DecidableEq, Repr

def chompingOf : Char → Chomping
  | '+' => .keep
  | _ => .strip

def isChomping (char : Char) : Bool := char = '+' || char = '-'

def chompingIndicator? : Scan (Option Chomping) := do
  match ← peek with
  | some char =>
      if isChomping char then
        forward 1
        return some (chompingOf char)
      else return none
  | none => return none

def indentationIndicator? : Scan (Option Nat) := do
  match ← peek with
  | some char =>
      if char = '0' then reject
      if isDecimal char then
        forward 1
        return some (char.toNat - '0'.toNat)
      else return none
  | none => return none

/-- The indicators of chomping and indentation, in either order. -/
def blockIndicators : Scan (Chomping × Option Nat) := do
  let result ← match ← chompingIndicator? with
    | some chomping => pure (chomping, ← indentationIndicator?)
    | none =>
        match ← indentationIndicator? with
        | some increment => pure ((← chompingIndicator?).getD .clip, some increment)
        | none => pure (.clip, none)
  if !endsPart (← peek) then reject
  return result

/-- Leading empty lines, and the greatest indentation among them and the first line
of text. -/
def blockIndentation : Nat → Nat → Scan (List Char × Nat)
  | 0, deepest => return ([], deepest)
  | fuel + 1, deepest => do
      if (← peek) = some ' ' then
        forward 1
        blockIndentation fuel (max deepest (← column))
      else
        match ← lineBreak? with
        | none => return ([], deepest)
        | some char =>
            let (breaks, found) ← blockIndentation fuel deepest
            return (char :: breaks, found)

/-- Consumes spaces up to the indentation. -/
def indentTo (indent : Nat) : Scan Unit := do
  let room := indent - (← column)
  let spaces := ((← get).rest.take room).takeWhile (· = ' ')
  forward spaces.length

/-- Empty lines inside block text. -/
def blockBreaks (indent : Nat) : Nat → Scan (List Char)
  | 0 => return []
  | fuel + 1 => do
      indentTo indent
      match ← lineBreak? with
      | none => return []
      | some char => return char :: (← blockBreaks indent fuel)

/-- Whether another line of block text starts here. -/
def atBlockLine (indent : Nat) : Scan Bool := do
  return (← column) = indent && (← peek).isSome

def isSpaceOrTab : Option Char → Bool
  | some char => char = ' ' || char = '\t'
  | none => false

/-- The lines of block text, with the line break and the empty lines at their end. -/
def blockLines (folded : Bool) (indent : Nat) :
    Nat → List Char → Scan (List Char × List Char × List Char)
  | 0, breaks => return ([], [], breaks)
  | fuel + 1, breaks => do
      if !(← atBlockLine indent) then return ([], [], breaks)
      let startsWithText := !isSpaceOrTab (← peek)
      let line ← takeWhile (!isBreak ·)
      let ending := (← lineBreak?).toList
      let nextBreaks ← blockBreaks indent (← bound)
      if ← atBlockLine indent then
        let folds := folded && ending = ['\n'] && startsWithText && !isSpaceOrTab (← peek)
        let joint :=
          if folds then (if nextBreaks.isEmpty then [' '] else [])
          else ending
        let (later, lastBreak, tail) ← blockLines folded indent fuel nextBreaks
        return (breaks ++ line ++ joint ++ later, lastBreak, tail)
      else return (breaks ++ line, ending, nextBreaks)

/-- Block text inside a node of the given indentation, which is -1 at the outermost
level. -/
def blockScalar (folded : Bool) (indent : Int) : Scan (List Char) := do
  forward 1
  let (chomping, increment) ← blockIndicators
  ignoredLine
  let least := (max (indent + 1) 1).toNat
  let (breaks, textIndent) ← match increment with
    | none =>
        let (breaks, deepest) ← blockIndentation (← bound) 0
        pure (breaks, max least deepest)
    | some increment =>
        let textIndent := least + increment - 1
        pure (← blockBreaks textIndent (← bound), textIndent)
  let (content, lastBreak, tail) ← blockLines folded textIndent (← bound) breaks
  return match chomping with
    | .strip => content
    | .clip => content ++ lastBreak
    | .keep => content ++ lastBreak ++ tail

/-! ## Plain text -/

/-- Whether plain text ends in front of a character, given the one after it. -/
def endsPlain (inFlow : Bool) (char : Char) (next : Option Char) : Bool :=
  endsWord (some char) ||
    (char = ':' && (endsWord next ||
      (inFlow && next.any fun after => ",[]\x7b\x7d".toList.contains after))) ||
    (inFlow && ",?[]\x7b\x7d".toList.contains char)

/-- The length of the plain run at the front. -/
def plainLength (inFlow : Bool) : List Char → Nat
  | [] => 0
  | char :: rest => if endsPlain inFlow char rest.head? then 0 else plainLength inFlow rest + 1

/-- The breaks of empty lines inside plain text, absent where the document ends. -/
def plainBreaks : Nat → Scan (Option (List Char))
  | 0 => return some []
  | fuel + 1 => do
      skipSpaces
      match ← lineBreak? with
      | none => return some []
      | some char =>
          if ← atDocumentBoundary then return none
          return (← plainBreaks fuel).map (char :: ·)

/-- The blanks after a run of plain text, folded, and whether a line ended in them. -/
def plainSpaces : Scan (List Char × Bool) := do
  let spaces ← takeWhile (· = ' ')
  match ← lineBreak? with
  | none => return (spaces, false)
  | some first =>
      if ← atDocumentBoundary then return ([], true)
      match ← plainBreaks (← bound) with
      | none => return ([], true)
      | some others => return (foldBreaks first others, true)

/-- The runs of plain text with the blanks between them, the place where the last run
ends, and whether a line ended behind it. -/
def plainRuns (inFlow : Bool) (indent : Int) :
    Nat → List Char → Mark → Bool → Scan (List Char × Mark × Bool)
  | 0, _, stop, lineEnded => return ([], stop, lineEnded)
  | fuel + 1, spaces, stop, lineEnded => do
      let left := (← get).rest
      let length := if left.head? = some '#' then 0 else plainLength inFlow left
      if length = 0 then return ([], stop, lineEnded)
      let run ← ahead length
      forward length
      let runStop ← mark
      let (nextSpaces, ended) ← plainSpaces
      let outdented := !inFlow && ((← column : Nat) : Int) < indent
      if nextSpaces.isEmpty || (← peek) = some '#' || outdented then
        return (spaces ++ run, runStop, ended)
      let (later, laterStop, laterEnded) ← plainRuns inFlow indent fuel nextSpaces runStop ended
      return (spaces ++ run ++ later, laterStop, laterEnded)

/-- Plain text inside a node of the given indentation: the text, the place where it
ends, and whether a line ended behind it. -/
def plainScalar (inFlow : Bool) (indent : Int) : Scan (List Char × Mark × Bool) := do
  plainRuns inFlow (indent + 1) (← bound) [] (← mark) false

end Scan
end Yaml
end RouteIR
