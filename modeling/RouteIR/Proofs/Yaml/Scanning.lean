import Mathlib
import RouteIR.Yaml.Node

namespace RouteIR
namespace Yaml

/-!
# Faults of a scan

The scan of a text stops with a fault of syntax, with one exception: an escape in quoted text can
name a number that is no character's.  In a text without such an escape every step of the scan
leaves such a text, and stops as it should.  The steps are gone through one by one, each with
what is known of those that it calls.
-/

open Std.Do

set_option mvcgen.warning false

/-- What a triple says of the outcome of a step. -/
theorem triple_iff {σ α : Type} {step : StateT σ (Except Failure) α} {before : σ -> Prop}
    {after : α -> σ -> Prop} {fault : Failure -> Prop} :
    ⦃fun state => ⌜before state⌝⦄ step
      ⦃post⟨fun value state => ⌜after value state⌝, fun failure => ⌜fault failure⌝⟩⦄ ↔
    forall state, before state -> match step.run state with
      | .ok (value, state) => after value state
      | .error failure => fault failure := by
  refine forall_congr' fun state => ?_
  refine imp_congr Iff.rfl ?_
  change (wp⟦step.run state⟧ _).down ↔ _
  cases outcome : step.run state with
  | ok result => exact Iff.rfl
  | error failure => exact Iff.rfl

/-- Every escape of eight digits names a character. -/
def Tame (chars : List Char) : Prop :=
  forall digits rest, digits.length = 8 -> '\\' :: 'U' :: digits ++ rest <:+ chars ->
    forall code, Text.hexNumber? digits = some code -> code < 0x110000

theorem Tame.of_suffix {chars rest : List Char} (tame : Tame chars) (suffix : rest <:+ chars) :
    Tame rest :=
  fun digits rest eight isSuffix => tame digits rest eight (isSuffix.trans suffix)

theorem Tame.tail {char : Char} {chars : List Char} (tame : Tame (char :: chars)) : Tame chars :=
  tame.of_suffix (List.suffix_cons char chars)

/-- A text without a backslash has no escapes. -/
theorem tame_of_not_mem {chars : List Char} (plain : '\\' ∉ chars) : Tame chars :=
  fun _ _ _ isSuffix => absurd (isSuffix.subset List.mem_cons_self) plain

/-- A scanning step keeps a text tame, and fails with a fault of syntax only. -/
abbrev Scan.Plain {α : Type} (step : Scan α) : Prop :=
  ⦃fun cursor => ⌜Tame cursor.rest⌝⦄ step
    ⦃post⟨fun _ cursor => ⌜Tame cursor.rest⌝, fun failure => ⌜failure = .syntaxError⌝⟩⦄

/-! ## Characters -/

namespace Scan

theorem suffix_forward (count : Nat) (cursor : Cursor) :
    (cursor.forward count).rest <:+ cursor.rest := by
  induction count generalizing cursor with
  | zero => exact List.suffix_rfl
  | succ count ih =>
      rcases cursor with ⟨_ | ⟨char, rest⟩, mark, bound⟩
      · exact List.suffix_rfl
      · exact (ih ⟨rest, mark.past char rest, bound⟩).trans (List.suffix_cons char rest)

@[spec] theorem plain_peek : Plain peek := by
  mvcgen [peek]

@[spec] theorem plain_peekAt (n) : Plain (peekAt n) := by
  mvcgen [peekAt]

@[spec] theorem plain_mark : Plain mark := by
  mvcgen [mark]

@[spec] theorem plain_column : Plain column := by
  mvcgen [column]

@[spec] theorem plain_bound : Plain bound := by
  mvcgen [bound]

@[spec] theorem reject_spec {α : Type} {post : PostCond α (.arg Cursor (.except Failure .pure))} :
    ⦃fun _ => post.2.1 .syntaxError⦄ (reject : Scan α) ⦃post⦄ :=
  fun _ fails => fails

theorem tame_forward {cursor : Cursor} (tame : Tame cursor.rest) (count : Nat) :
    Tame (cursor.forward count).rest :=
  tame.of_suffix (suffix_forward count cursor)

@[spec] theorem plain_forward (count : Nat) : Plain (forward count) := by
  mvcgen [forward]
  rename_i tame _
  exact tame_forward tame count

@[spec] theorem plain_ahead (count : Nat) : Plain (ahead count) := by
  mvcgen [ahead]

@[spec] theorem plain_takeWhile (keep : Char -> Bool) : Plain (takeWhile keep) := by
  mvcgen [takeWhile]

@[spec] theorem plain_skipSpaces : Plain skipSpaces := by
  mvcgen [skipSpaces]

@[spec] theorem plain_lineBreak? : Plain lineBreak? := by
  mvcgen [lineBreak?]

@[spec] theorem plain_atDocumentBoundary : Plain atDocumentBoundary := by
  mvcgen [atDocumentBoundary]

@[spec] theorem plain_ignoredLine : Plain ignoredLine := by
  mvcgen [ignoredLine]

@[spec] theorem plain_quotedBreaks (fuel : Nat) : Plain (quotedBreaks fuel) := by
  induction fuel with
  | zero => mvcgen [quotedBreaks]
  | succ fuel ih => mvcgen [quotedBreaks, ih]

@[spec] theorem plain_quotedSpaces : Plain quotedSpaces := by
  mvcgen [quotedSpaces]

/-! ## Quoted text and its escapes -/

theorem hexValue?_lt {char : Char} {value : Nat} (isDigit : Text.hexValue? char = some value) :
    value < 16 := by
  have toNat {char bound : Char} (le : char ≤ bound) : char.toNat ≤ bound.toNat := le
  rw [Text.hexValue?] at isDigit
  split at isDigit
  · next within =>
      have below := toNat within.2
      cases isDigit
      exact Nat.lt_of_le_of_lt (Nat.sub_le_sub_right below _) (by decide)
  · split at isDigit
    · next within =>
        have below := toNat within.2
        cases isDigit
        exact Nat.lt_of_le_of_lt (Nat.add_le_add_right (Nat.sub_le_sub_right below _) _) (by decide)
    · split at isDigit
      · next within =>
          have below := toNat within.2
          cases isDigit
          exact Nat.lt_of_le_of_lt (Nat.add_le_add_right (Nat.sub_le_sub_right below _) _)
            (by decide)
      · cases isDigit

/-- Digits name a number that fits in them. -/
theorem code_lt_of_hexNumber? {digits : List Char} {code : Nat}
    (read : Text.hexNumber? digits = some code) : code < 16 ^ digits.length := by
  have folded (digits : List Char) (before code : Nat)
      (read : digits.foldlM (fun value digit => (Text.hexValue? digit).map (value * 16 + ·)) before =
        some code) : code < (before + 1) * 16 ^ digits.length := by
    induction digits generalizing before with
    | nil =>
        cases read
        simp
    | cons digit rest ih =>
        rw [List.foldlM_cons] at read
        rcases Option.bind_eq_some_iff.mp read with ⟨next, here, later⟩
        rcases Option.map_eq_some_iff.mp here with ⟨value, isDigit, rfl⟩
        have small := hexValue?_lt isDigit
        calc code < (before * 16 + value + 1) * 16 ^ rest.length := ih _ later
          _ ≤ ((before + 1) * 16) * 16 ^ rest.length := Nat.mul_le_mul_right _ (by omega)
          _ = (before + 1) * 16 ^ (digit :: rest).length := by
              rw [List.length_cons, Nat.pow_succ, Nat.mul_assoc, Nat.mul_comm 16]
  simpa using folded digits 0 code read

theorem eq_U_or_le_of_escapeWidth? {letter : Char} {width : Nat}
    (isWidth : escapeWidth? letter = some width) : letter = 'U' ∧ width = 8 ∨ width ≤ 4 := by
  rw [escapeWidth?.eq_def] at isWidth
  split at isWidth <;> cases isWidth <;> simp

/-- The digits of an escape name a character: four are too few to do otherwise, and eight are those
of an escape in the text. -/
theorem code_lt_of_escape {cursor : Cursor} {letter : Char} {width code : Nat}
    (tame : Tame ('\\' :: cursor.rest)) (head : cursor.rest.head? = some letter)
    (isWidth : escapeWidth? letter = some width)
    (full : ¬ ((cursor.forward 1).rest.take width).length < width)
    (read : Text.hexNumber? ((cursor.forward 1).rest.take width) = some code) :
    code < 0x110000 := by
  rcases cursor with ⟨_ | ⟨_, rest⟩, mark, bound⟩
  · cases head
  · cases head
    change ¬ (rest.take width).length < width at full
    change Text.hexNumber? (rest.take width) = some code at read
    rcases eq_U_or_le_of_escapeWidth? isWidth with ⟨rfl, rfl⟩ | short
    · refine tame (rest.take 8) (rest.drop 8) ?_ ?_ code read
      · rw [List.length_take] at full ⊢
        omega
      · rw [List.cons_append, List.cons_append, List.take_append_drop]
    · have few : (rest.take width).length ≤ 4 := by
        rw [List.length_take]
        omega
      calc code < 16 ^ (rest.take width).length := code_lt_of_hexNumber? read
        _ ≤ 16 ^ 4 := Nat.pow_le_pow_right (by decide) few
        _ ≤ 0x110000 := by decide

@[spec] theorem checkCode_spec (code : Nat) :
    ⦃fun cursor => ⌜code < 0x110000 ∧ Tame cursor.rest⌝⦄ checkCode code
      ⦃post⟨fun _ cursor => ⌜Tame cursor.rest⌝, fun failure => ⌜failure = .syntaxError⌝⟩⦄ := by
  rintro cursor ⟨small, tame⟩
  rw [checkCode, if_pos small]
  exact tame

theorem escapeSequence_spec :
    ⦃fun cursor => ⌜Tame ('\\' :: cursor.rest)⌝⦄ escapeSequence
      ⦃post⟨fun _ cursor => ⌜Tame cursor.rest⌝, fun failure => ⌜failure = .syntaxError⌝⟩⦄ := by
  mvcgen [escapeSequence, peek, ahead, forward]
  · exact tame_forward (Tame.tail ‹_›) 1
  · exact ⟨code_lt_of_escape ‹_› ‹_› ‹_› ‹_› ‹_›, tame_forward (Tame.tail ‹_›) 1⟩
  · exact tame_forward ‹_› _
  · exact Tame.tail ‹_›

theorem tame_cons_forward {cursor : Cursor} {char : Char} (tame : Tame cursor.rest)
    (head : cursor.rest.head? = some char) : Tame (char :: (cursor.forward 1).rest) := by
  rcases cursor with ⟨_ | ⟨_, rest⟩, mark, bound⟩
  · cases head
  · cases head
    exact tame

@[spec] theorem plain_quotedWords (double : Bool) (fuel : Nat) :
    Plain (quotedWords double fuel) := by
  induction fuel with
  | zero => mvcgen [quotedWords]
  | succ fuel ih =>
      mvcgen [quotedWords, ih, peek, forward, escapeSequence_spec]
      all_goals grind [tame_forward, tame_cons_forward]

@[spec] theorem plain_quotedRest (quote : Char) (fuel : Nat) : Plain (quotedRest quote fuel) := by
  induction fuel with
  | zero => mvcgen [quotedRest]
  | succ fuel ih => mvcgen [quotedRest, ih]

@[spec] theorem plain_quotedScalar (quote : Char) : Plain (quotedScalar quote) := by
  mvcgen [quotedScalar]

/-! ## Text in blocks and plain text -/

@[spec] theorem plain_chompingIndicator? : Plain chompingIndicator? := by
  mvcgen [chompingIndicator?]

@[spec] theorem plain_indentationIndicator? : Plain indentationIndicator? := by
  mvcgen [indentationIndicator?]

@[spec] theorem plain_blockIndicators : Plain blockIndicators := by
  mvcgen [blockIndicators]

@[spec] theorem plain_blockIndentation (fuel deepest : Nat) :
    Plain (blockIndentation fuel deepest) := by
  induction fuel generalizing deepest with
  | zero => mvcgen [blockIndentation]
  | succ fuel ih => mvcgen [blockIndentation, ih]

@[spec] theorem plain_indentTo (n : Nat) : Plain (indentTo n) := by
  mvcgen [indentTo]

@[spec] theorem plain_blockBreaks (indent fuel : Nat) : Plain (blockBreaks indent fuel) := by
  induction fuel with
  | zero => mvcgen [blockBreaks]
  | succ fuel ih => mvcgen [blockBreaks, ih]

@[spec] theorem plain_atBlockLine (indent : Nat) : Plain (atBlockLine indent) := by
  mvcgen [atBlockLine]

@[spec] theorem plain_blockLines (folded : Bool) (indent fuel : Nat) (breaks : List Char) :
    Plain (blockLines folded indent fuel breaks) := by
  induction fuel generalizing breaks with
  | zero => mvcgen [blockLines]
  | succ fuel ih => mvcgen [blockLines, ih]

@[spec] theorem plain_blockScalar (folded : Bool) (indent : Int) :
    Plain (blockScalar folded indent) := by
  mvcgen [blockScalar]

@[spec] theorem plain_plainBreaks (fuel : Nat) : Plain (plainBreaks fuel) := by
  induction fuel with
  | zero => mvcgen [plainBreaks]
  | succ fuel ih => mvcgen [plainBreaks, ih]

@[spec] theorem plain_plainSpaces : Plain plainSpaces := by
  mvcgen [plainSpaces]

@[spec] theorem plain_plainRuns (inFlow : Bool) (indent : Int) (fuel : Nat) (spaces : List Char)
    (stop : Mark) (lineEnded : Bool) :
    Plain (plainRuns inFlow indent fuel spaces stop lineEnded) := by
  induction fuel generalizing spaces stop lineEnded with
  | zero => mvcgen [plainRuns]
  | succ fuel ih => mvcgen [plainRuns, ih]

@[spec] theorem plain_plainScalar (inFlow : Bool) (indent : Int) :
    Plain (plainScalar inFlow indent) := by
  mvcgen [plainScalar]

end Scan

/-! ## Tokens -/

/-- A step of the lexer keeps a text tame, and fails with a fault of syntax only. -/
abbrev Lex.Plain {α : Type} (step : Lex α) : Prop :=
  ⦃fun lexer => ⌜Tame lexer.cursor.rest⌝⦄ step
    ⦃post⟨fun _ lexer => ⌜Tame lexer.cursor.rest⌝, fun failure => ⌜failure = .syntaxError⌝⟩⦄

@[spec] theorem Scan.plain_directiveNumber : Plain Lex.directiveNumber := by
  mvcgen [Lex.directiveNumber]

@[spec] theorem Scan.plain_tagHandle : Plain Lex.tagHandle := by
  mvcgen [Lex.tagHandle]

@[spec] theorem Scan.plain_percentBytes (fuel : Nat) : Plain (Lex.percentBytes fuel) := by
  induction fuel with
  | zero => mvcgen [Lex.percentBytes]
  | succ fuel ih => mvcgen [Lex.percentBytes, ih]

@[spec] theorem Scan.plain_tagSuffixParts (fuel : Nat) : Plain (Lex.tagSuffixParts fuel) := by
  induction fuel with
  | zero => mvcgen [Lex.tagSuffixParts]
  | succ fuel ih => mvcgen [Lex.tagSuffixParts, ih]

@[spec] theorem Scan.plain_tagSuffix : Plain Lex.tagSuffix := by
  mvcgen [Lex.tagSuffix]

@[spec] theorem Scan.plain_directiveContent : Plain Lex.directiveContent := by
  mvcgen [Lex.directiveContent]

@[spec] theorem Scan.plain_anchorName : Plain Lex.anchorName := by
  mvcgen [Lex.anchorName]

@[spec] theorem Scan.plain_tagText : Plain Lex.tagText := by
  mvcgen [Lex.tagText]

namespace Lex

@[spec] theorem reject_spec {α : Type} {post : PostCond α (.arg Lexer (.except Failure .pure))} :
    ⦃fun _ => post.2.1 .syntaxError⦄ (reject : Lex α) ⦃post⦄ :=
  fun _ fails => fails

@[spec] theorem plain_scan {α : Type} {step : Scan α} (plain : Scan.Plain step) :
    Plain (scan step) := by
  refine triple_iff.mpr fun lexer tame => ?_
  have ends := triple_iff.mp plain lexer.cursor tame
  cases outcome : step.run lexer.cursor with
  | ok result =>
      rw [outcome] at ends
      simpa [scan, outcome] using ends
  | error failure =>
      rw [outcome] at ends
      simpa [scan, outcome] using ends

@[spec] theorem plain_mark : Plain mark := by
  mvcgen [mark]

@[spec] theorem plain_peek : Plain peek := by
  mvcgen [peek]

@[spec] theorem plain_push (kind : TokenKind) (start stop : Mark) :
    Plain (push kind start stop) := by
  mvcgen [push]

@[spec] theorem plain_allowKey (allowed : Bool) : Plain (allowKey allowed) := by
  mvcgen [allowKey]

@[spec] theorem plain_inFlow : Plain inFlow := by
  mvcgen [inFlow]

@[spec] theorem plain_pushChars (kind : TokenKind) (count : Nat) :
    Plain (pushChars kind count) := by
  mvcgen [pushChars]

@[spec] theorem plain_unwindTo (column : Int) (enclosing : List Int) :
    Plain (unwindTo column enclosing) := by
  induction enclosing with
  | nil => mvcgen [unwindTo]
  | cons outer others ih => mvcgen [unwindTo, ih]

@[spec] theorem plain_unwind (column : Int) : Plain (unwind column) := by
  mvcgen [unwind]

@[spec] theorem plain_deepen (column : Nat) : Plain (deepen column) := by
  mvcgen [deepen]

@[spec] theorem plain_dropStaleKeys : Plain dropStaleKeys := by
  mvcgen [dropStaleKeys]

@[spec] theorem plain_dropKey : Plain dropKey := by
  mvcgen [dropKey]

@[spec] theorem plain_rememberKey : Plain rememberKey := by
  mvcgen [rememberKey]

@[spec] theorem plain_closeDocument : Plain closeDocument := by
  mvcgen [closeDocument]

@[spec] theorem plain_pushStreamEnd : Plain pushStreamEnd := by
  mvcgen [pushStreamEnd]

@[spec] theorem plain_pushDirective : Plain pushDirective := by
  mvcgen [pushDirective]

@[spec] theorem plain_pushBoundary (kind : TokenKind) : Plain (pushBoundary kind) := by
  mvcgen [pushBoundary]

@[spec] theorem plain_pushFlowStart (kind : TokenKind) : Plain (pushFlowStart kind) := by
  mvcgen [pushFlowStart]

@[spec] theorem plain_pushFlowEnd (kind : TokenKind) : Plain (pushFlowEnd kind) := by
  mvcgen [pushFlowEnd]

@[spec] theorem plain_pushFlowEntry : Plain pushFlowEntry := by
  mvcgen [pushFlowEntry]

@[spec] theorem plain_openBlock (kind : TokenKind) : Plain (openBlock kind) := by
  mvcgen [openBlock]

@[spec] theorem plain_pushBlockEntry : Plain pushBlockEntry := by
  mvcgen [pushBlockEntry]

@[spec] theorem plain_pushKey : Plain pushKey := by
  mvcgen [pushKey]

@[spec] theorem plain_insertBefore (number : Nat) (tokens : List Token) :
    Plain (insertBefore number tokens) := by
  mvcgen [insertBefore]

@[spec] theorem plain_pushValue : Plain pushValue := by
  mvcgen [pushValue]

@[spec] theorem plain_pushNode {content : Scan TokenKind} (plain : Scan.Plain content) :
    Plain (pushNode content) := by
  mvcgen [pushNode]

@[spec] theorem plain_pushBlockScalar (folded : Bool) : Plain (pushBlockScalar folded) := by
  mvcgen [pushBlockScalar]

@[spec] theorem plain_pushQuoted (quote : Char) : Plain (pushQuoted quote) := by
  mvcgen [pushQuoted]

@[spec] theorem plain_pushPlain : Plain pushPlain := by
  mvcgen [pushPlain]

@[spec] theorem plain_skipToToken (fuel : Nat) : Plain (skipToToken fuel) := by
  induction fuel with
  | zero => mvcgen [skipToToken]
  | succ fuel ih => mvcgen [skipToToken, ih]

@[spec] theorem plain_fetch : Plain fetch := by
  mvcgen [fetch]

@[spec] theorem plain_needsMore : Plain needsMore := by
  mvcgen [needsMore]

end Lex

/-! ## Whole texts -/

/-- The scan of a tame text stops with a fault of syntax, if with any. -/
theorem Lexer.eq_syntaxError_of_run {fuel : Nat} {lexer : Lexer} (tame : Tame lexer.cursor.rest)
    {failure : Failure} (stops : (Lexer.run fuel lexer).2 = some failure) :
    failure = .syntaxError := by
  induction fuel generalizing lexer with
  | zero => cases stops
  | succ fuel ih =>
      have asks := triple_iff.mp Lex.plain_needsMore lexer tame
      rw [Lexer.run] at stops
      split at stops
      · next outcome =>
          rw [outcome] at asks
          cases stops
          exact asks
      · next later outcome =>
          rw [outcome] at asks
          have fetches := triple_iff.mp Lex.plain_fetch later asks
          split at stops
          · next outcome =>
              rw [outcome] at fetches
              cases stops
              exact fetches
          · next outcome =>
              rw [outcome] at fetches
              exact ih fetches stops
      · next later outcome =>
          rw [outcome] at asks
          split at stops
          · cases stops
          · refine ih ?_ stops
            exact asks

theorem Token.eq_syntaxError_of_ofText {text : List Char} (tame : Tame text) {failure : Failure}
    (stops : (Token.ofText text).2 = some failure) : failure = .syntaxError := by
  rw [Token.ofText] at stops
  split at stops
  · exact Lexer.eq_syntaxError_of_run tame stops
  · exact (Option.some.inj stops).symm

end Yaml
end RouteIR
