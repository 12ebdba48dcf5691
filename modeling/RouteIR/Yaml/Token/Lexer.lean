import RouteIR.Text.Digit
import RouteIR.Yaml.Token
import RouteIR.Yaml.Token.Scalar

namespace RouteIR
namespace Yaml

/-!
# From text to tokens

Whether a token starts a mapping key is known only when a colon follows, so tokens
wait in a queue while one of them may still turn out to be a key.  A token leaves
the queue as soon as nothing can be put in front of it any more.  The result is the
list of tokens that left the queue, and the failure, if any, that stopped the scan:
a consumer meets that failure exactly when it asks for a token beyond the list.

Block structure shows in the indentation: a deeper column opens a collection and a
smaller one closes it.  Inside brackets and braces indentation has no meaning.
-/

/-- A place where a mapping key may have started. -/
structure PossibleKey where
  /-- The number of the key's first token, counted from the start of the stream. -/
  token : Nat
  /-- The key is the first thing on its line, so a colon has to follow. -/
  required : Bool
  mark : Mark
deriving Repr

structure Lexer where
  cursor : Cursor
  queue : List Token
  /-- How many tokens have left the queue. -/
  taken : Nat
  flowLevel : Nat
  /-- The column of the innermost open block collection, -1 outside of all. -/
  indent : Int
  enclosing : List Int
  keyAllowed : Bool
  /-- The possible keys, by flow level. -/
  possibleKeys : List (Nat × PossibleKey)
  finished : Bool
deriving Repr

def Lexer.start (text : List Char) : Lexer where
  cursor := Cursor.start text
  queue := [⟨.streamStart, ⟨0, 0, 0⟩, ⟨0, 0, 0⟩⟩]
  taken := 0
  flowLevel := 0
  indent := -1
  enclosing := []
  keyAllowed := true
  possibleKeys := []
  finished := false

abbrev Lex := StateT Lexer (Except Failure)

namespace Lex

def reject {α : Type} : Lex α := throw .syntaxError

/-- Runs a scanning step on the lexer's cursor. -/
def scan {α : Type} (step : Scan α) : Lex α := do
  let lexer ← get
  let (result, cursor) ← step.run lexer.cursor
  set { lexer with cursor := cursor }
  return result

def mark : Lex Mark := return (← get).cursor.mark

def peek : Lex (Option Char) := scan Scan.peek

def push (kind : TokenKind) (start stop : Mark) : Lex Unit :=
  modify fun lexer => { lexer with queue := lexer.queue ++ [⟨kind, start, stop⟩] }

def allowKey (allowed : Bool) : Lex Unit :=
  modify fun lexer => { lexer with keyAllowed := allowed }

def inFlow : Lex Bool := return (← get).flowLevel ≠ 0

/-- Consumes characters as one token. -/
def pushChars (kind : TokenKind) (count : Nat) : Lex Unit := do
  let start ← mark
  scan (Scan.forward count)
  push kind start (← mark)

/-! ## Indentation -/

/-- Closes the block collections that are deeper than a column. -/
def unwindTo (column : Int) : List Int → Lex Unit
  | [] => return
  | outer :: others => do
      if column < (← get).indent then
        let here ← mark
        push .blockEnd here here
        modify fun lexer => { lexer with indent := outer, enclosing := others }
        unwindTo column others

/-- Closes block collections for the text that starts at a column. -/
def unwind (column : Int) : Lex Unit := do
  if !(← inFlow) then
    unwindTo column (← get).enclosing

/-- Opens a block collection, if the column is deeper than the innermost one. -/
def deepen (column : Nat) : Lex Bool := do
  let lexer ← get
  if lexer.indent < column then
    set { lexer with indent := (column : Int), enclosing := lexer.indent :: lexer.enclosing }
    return true
  else return false

/-! ## Possible keys -/

/-- Drops the possible keys that are on an earlier line or too far back.  None of
them may be required. -/
def dropStaleKeys : Lex Unit := do
  let lexer ← get
  let here := lexer.cursor.mark
  let isStale (entry : Nat × PossibleKey) : Bool :=
    entry.2.mark.line ≠ here.line || 1024 < here.index - entry.2.mark.index
  if lexer.possibleKeys.any fun entry => isStale entry && entry.2.required then reject
  set { lexer with possibleKeys := lexer.possibleKeys.filter (!isStale ·) }

/-- Gives up the possible key of the current flow level. -/
def dropKey : Lex Unit := do
  let lexer ← get
  match lexer.possibleKeys.lookup lexer.flowLevel with
  | none => return
  | some key =>
      if key.required then reject
      set { lexer with
        possibleKeys := lexer.possibleKeys.filter (·.1 ≠ lexer.flowLevel) }

/-- Remembers that the next token may start a key. -/
def rememberKey : Lex Unit := do
  if (← get).keyAllowed then
    dropKey
    let lexer ← get
    let here := lexer.cursor.mark
    let key : PossibleKey :=
      { token := lexer.taken + lexer.queue.length
        required := lexer.flowLevel = 0 && lexer.indent = here.column
        mark := here }
    set { lexer with possibleKeys := lexer.possibleKeys ++ [(lexer.flowLevel, key)] }

/-! ## Directives, anchors and tags -/

def directiveNumber : Scan Nat := do
  let digits ← Scan.takeWhile isDecimal
  if digits.isEmpty then Scan.reject
  return digits.foldl (fun value digit => value * 10 + (digit.toNat - '0'.toNat)) 0

/-- A tag handle: an exclamation mark, or a name between two of them.  In front of a
space the first mark stands alone. -/
def tagHandle : Scan String := do
  if (← Scan.peek) ≠ some '!' then Scan.reject
  if (← Scan.peekAt 1) = some ' ' then
    Scan.forward 1
    return "!"
  Scan.forward 1
  let name ← Scan.takeWhile isName
  if (← Scan.peek) ≠ some '!' then Scan.reject
  Scan.forward 1
  return String.ofList ('!' :: name ++ ['!'])

/-- The bytes of a run of percent escapes. -/
def percentBytes : Nat → Scan (List UInt8)
  | 0 => return []
  | fuel + 1 => do
      if (← Scan.peek) ≠ some '%' then return []
      Scan.forward 1
      let digits ← Scan.ahead 2
      match Text.hexNumber? digits with
      | some code =>
          if digits.length < 2 then Scan.reject
          Scan.forward 2
          return UInt8.ofNat code :: (← percentBytes fuel)
      | none => Scan.reject

def tagSuffixParts : Nat → Scan (List Char)
  | 0 => return []
  | fuel + 1 => do
      let run ← Scan.takeWhile fun char => isTagPart char && char ≠ '%'
      if (← Scan.peek) = some '%' then
        let bytes ← percentBytes (← Scan.bound)
        match String.fromUTF8? ⟨bytes.toArray⟩ with
        | none => Scan.reject
        | some text => return run ++ text.toList ++ (← tagSuffixParts fuel)
      else return run

/-- The suffix of a tag, at least one character long. -/
def tagSuffix : Scan String := do
  let before ← Scan.mark
  let chars ← tagSuffixParts (← Scan.bound)
  if (← Scan.mark) = before then Scan.reject
  return String.ofList chars

def directiveContent : Scan Directive := do
  Scan.forward 1
  let name ← Scan.takeWhile isName
  if name.isEmpty || !endsPart (← Scan.peek) then Scan.reject
  if name = "YAML".toList then
    Scan.skipSpaces
    let major ← directiveNumber
    if (← Scan.peek) ≠ some '.' then Scan.reject
    Scan.forward 1
    let minor ← directiveNumber
    if !endsPart (← Scan.peek) then Scan.reject
    return .version major minor
  else if name = "TAG".toList then
    Scan.skipSpaces
    let handle ← tagHandle
    if (← Scan.peek) ≠ some ' ' then Scan.reject
    Scan.skipSpaces
    let meaning ← tagSuffix
    if !endsPart (← Scan.peek) then Scan.reject
    return .tagHandle handle meaning
  else
    let _ ← Scan.takeWhile (!isBreak ·)
    return .other

/-- The name behind an anchor's or an alias's indicator. -/
def anchorName : Scan String := do
  Scan.forward 1
  let name ← Scan.takeWhile isName
  if name.isEmpty then Scan.reject
  let next ← Scan.peek
  let ends := endsWord next || next.any fun char =>
    "?:,]\x7d%@".toList.contains char || char = '\x60'
  if !ends then Scan.reject
  return String.ofList name

def tagText : Scan TagText := do
  let text ← match ← Scan.peekAt 1 with
    | some '<' =>
        Scan.forward 2
        let suffix ← tagSuffix
        if (← Scan.peek) ≠ some '>' then Scan.reject
        Scan.forward 1
        pure ⟨none, suffix⟩
    | next =>
        if endsWord next then
          Scan.forward 1
          pure ⟨none, "!"⟩
        else
          let word := (((← get).rest).drop 1).takeWhile fun char => !endsPart (some char)
          if word.contains '!' then
            let handle ← tagHandle
            pure ⟨some handle, ← tagSuffix⟩
          else
            Scan.forward 1
            pure ⟨some "!", ← tagSuffix⟩
  if !endsPart (← Scan.peek) then Scan.reject
  return text

/-! ## Tokens -/

/-- Ends the stream or the document: all block collections close. -/
def closeDocument : Lex Unit := do
  unwind (-1)
  dropKey
  allowKey false

def pushStreamEnd : Lex Unit := do
  closeDocument
  let here ← mark
  push .streamEnd here here
  modify fun lexer => { lexer with possibleKeys := [], finished := true }

def pushDirective : Lex Unit := do
  closeDocument
  let start ← mark
  let content ← scan directiveContent
  let stop ← mark
  scan Scan.ignoredLine
  push (.directive content) start stop

def pushBoundary (kind : TokenKind) : Lex Unit := do
  closeDocument
  pushChars kind 3

def pushFlowStart (kind : TokenKind) : Lex Unit := do
  rememberKey
  modify fun lexer => { lexer with flowLevel := lexer.flowLevel + 1, keyAllowed := true }
  pushChars kind 1

def pushFlowEnd (kind : TokenKind) : Lex Unit := do
  dropKey
  modify fun lexer => { lexer with flowLevel := lexer.flowLevel - 1, keyAllowed := false }
  pushChars kind 1

def pushFlowEntry : Lex Unit := do
  allowKey true
  dropKey
  pushChars .flowEntry 1

/-- Opens a block collection at the current column, where one may start. -/
def openBlock (kind : TokenKind) : Lex Unit := do
  if !(← inFlow) then
    let here ← mark
    if !(← get).keyAllowed then reject
    if ← deepen here.column then push kind here here

def pushBlockEntry : Lex Unit := do
  openBlock .blockSequenceStart
  allowKey true
  dropKey
  pushChars .blockEntry 1

def pushKey : Lex Unit := do
  openBlock .blockMappingStart
  allowKey (!(← inFlow))
  dropKey
  pushChars .key 1

/-- Puts tokens in front of the token with the given number. -/
def insertBefore (number : Nat) (tokens : List Token) : Lex Unit :=
  modify fun lexer =>
    let place := number - lexer.taken
    { lexer with queue := lexer.queue.take place ++ tokens ++ lexer.queue.drop place }

def pushValue : Lex Unit := do
  let lexer ← get
  match lexer.possibleKeys.lookup lexer.flowLevel with
  | some key =>
      set { lexer with
        possibleKeys := lexer.possibleKeys.filter (·.1 ≠ lexer.flowLevel) }
      let opens ← if ← inFlow then pure false else deepen key.mark.column
      let start : List Token :=
        if opens then [⟨.blockMappingStart, key.mark, key.mark⟩] else []
      insertBefore key.token (start ++ [⟨.key, key.mark, key.mark⟩])
      allowKey false
  | none =>
      openBlock .blockMappingStart
      allowKey (!(← inFlow))
      dropKey
  pushChars .value 1

/-- A token that may start a key, after which no key starts on the same line. -/
def pushNode (content : Scan TokenKind) : Lex Unit := do
  rememberKey
  allowKey false
  let start ← mark
  let kind ← scan content
  push kind start (← mark)

def pushBlockScalar (folded : Bool) : Lex Unit := do
  allowKey true
  dropKey
  let start ← mark
  let text ← scan (Scan.blockScalar folded (← get).indent)
  push (.scalar (String.ofList text) false) start (← mark)

def pushQuoted (quote : Char) : Lex Unit :=
  pushNode do return .scalar (String.ofList (← Scan.quotedScalar quote)) false

def pushPlain : Lex Unit := do
  rememberKey
  let start ← mark
  let (text, stop, lineEnded) ← scan (Scan.plainScalar (← inFlow) (← get).indent)
  allowKey lineEnded
  push (.scalar (String.ofList text) true) start stop

/-! ## The next token -/

/-- Skips blanks, comments and line breaks.  Behind a line break, in block context, a
key may start. -/
def skipToToken : Nat → Lex Unit
  | 0 => return
  | fuel + 1 => do
      scan Scan.skipSpaces
      if (← peek) = some '#' then
        let _ ← scan (Scan.takeWhile (!isBreak ·))
      match ← scan Scan.lineBreak? with
      | none => return
      | some _ =>
          if !(← inFlow) then allowKey true
          skipToToken fuel

/-- Whether plain text may start with a character, given the one after it. -/
def startsPlain (inFlow : Bool) (char : Char) (next : Option Char) : Bool :=
  let indicators := "-?:,[]\x7b\x7d#&*!|>'\"%@".toList
  !(endsWord (some char) || indicators.contains char || char = '\x60') ||
    (!endsWord next && (char = '-' || (!inFlow && (char = '?' || char = ':'))))

/-- Scans the next token and puts it into the queue. -/
def fetch : Lex Unit := do
  if (← mark).index = 0 && (← peek) = some '\ufeff' then scan (Scan.forward 1)
  skipToToken (← scan Scan.bound)
  dropStaleKeys
  let here ← mark
  unwind here.column
  let flow ← inFlow
  let next ← scan (Scan.peekAt 1)
  let atBoundary ← if here.column = 0 then scan Scan.atDocumentBoundary else pure false
  match ← peek with
  | none => pushStreamEnd
  | some char =>
      if char = '%' && here.column = 0 then pushDirective
      else if char = '-' && atBoundary then pushBoundary .documentStart
      else if char = '.' && atBoundary then pushBoundary .documentEnd
      else if char = '[' then pushFlowStart .flowSequenceStart
      else if char = '\x7b' then pushFlowStart .flowMappingStart
      else if char = ']' then pushFlowEnd .flowSequenceEnd
      else if char = '\x7d' then pushFlowEnd .flowMappingEnd
      else if char = ',' then pushFlowEntry
      else if char = '-' && endsWord next then pushBlockEntry
      else if char = '?' && (flow || endsWord next) then pushKey
      else if char = ':' && (flow || endsWord next) then pushValue
      else if char = '*' then pushNode do return .alias (← anchorName)
      else if char = '&' then pushNode do return .anchor (← anchorName)
      else if char = '!' then pushNode do return .tag (← tagText)
      else if char = '|' && !flow then pushBlockScalar false
      else if char = '>' && !flow then pushBlockScalar true
      else if char = '\'' || char = '"' then pushQuoted char
      else if startsPlain flow char next then pushPlain
      else reject

/-- Whether something may still be put in front of the first token of the queue. -/
def needsMore : Lex Bool := do
  let lexer ← get
  if lexer.finished then return false
  if lexer.queue.isEmpty then return true
  dropStaleKeys
  let lexer ← get
  return lexer.possibleKeys.any fun entry => entry.2.token = lexer.taken

end Lex

/-- The tokens that leave the queue, and the failure that stops the scan.  Each round
consumes a character, ends the stream or lets a token go. -/
def Lexer.run : Nat → Lexer → List Token × Option Failure
  | 0, _ => ([], none)
  | fuel + 1, lexer =>
      match Lex.needsMore.run lexer with
      | .error failure => ([], some failure)
      | .ok (true, lexer) =>
          match Lex.fetch.run lexer with
          | .error failure => ([], some failure)
          | .ok (_, lexer) => run fuel lexer
      | .ok (false, lexer) =>
          match lexer.queue with
          | [] => ([], none)
          | token :: queue =>
              let (tokens, failure) :=
                run fuel { lexer with queue := queue, taken := lexer.taken + 1 }
              (token :: tokens, failure)

/-- The tokens of a text.  A text with a character that none may hold has no tokens
at all. -/
def Token.ofText (text : List Char) : List Token × Option Failure :=
  if text.all isAllowed then (Lexer.start text).run (8 * text.length + 16)
  else ([], some .syntaxError)

end Yaml
end RouteIR
