import RouteIR.Proofs.Outcome
import RouteIR.Proofs.Yaml.Scanning

namespace RouteIR
namespace Yaml

/-!
# Faults of composition

What goes wrong between tokens and nodes has a message, and so has a fault of the scan that is met
there, when the text is tame.
-/

open Std.Do

set_option mvcgen.warning false


/-- A failure that has a message. -/
def Failure.Told (failure : Failure) : Prop :=
  forall text, (failure.message? text).isSome = true

@[spec high] theorem throw_spec {σ α : Type} (failure : Failure)
    {post : PostCond α (.arg σ (.except Failure .pure))} :
    ⦃fun _ => post.2.1 failure⦄ (MonadExceptOf.throw failure : StateT σ (Except Failure) α) ⦃post⦄ :=
  fun _ fails => fails

theorem told_syntaxError : Failure.Told .syntaxError := fun _ => rfl

/-- A step of the composer fails with a message, as long as the scan does. -/
abbrev Compose.Tells {α : Type} (step : Compose α) : Prop :=
  ⦃fun composer => ⌜composer.failure.Told⌝⦄ step
    ⦃post⟨fun _ composer => ⌜composer.failure.Told⌝, fun failure => ⌜failure.Told⌝⟩⦄

namespace Compose

@[spec] theorem reject_spec {α : Type} {post : PostCond α (.arg Composer (.except Failure .pure))} :
    ⦃fun _ => post.2.1 .syntaxError⦄ (reject : Compose α) ⦃post⦄ :=
  fun _ fails => fails

@[spec] theorem tells_peek : Tells peek := by
  mvcgen [peek]

@[spec] theorem tells_take : Tells take := by
  mvcgen [take]

@[spec] theorem tells_at? (kinds : List TokenKind) : Tells (at? kinds) := by
  mvcgen [at?]

@[spec] theorem tells_add (node : Node) : Tells (add node) := by
  mvcgen [add]

@[spec] theorem tells_setContent (index : Nat) (content : Content) :
    Tells (setContent index content) := by
  mvcgen [setContent]

@[spec] theorem tells_empty (place : Mark) : Tells (empty place) := by
  mvcgen [empty]

@[spec] theorem tells_bind? (anchor : Option String) (node : Nat) : Tells (bind? anchor node) := by
  mvcgen [bind?]
  cases anchor <;> assumption

@[spec] theorem tells_checkAnchor (anchor : Option String) (start : Mark) :
    Tells (checkAnchor anchor start) := by
  mvcgen [checkAnchor]
  exact fun _ => rfl

@[spec] theorem tells_fullTag (text : TagText) : Tells (fullTag text) := by
  mvcgen [fullTag]
  exact told_syntaxError

@[spec] theorem tells_properties : Tells properties := by
  mvcgen [properties]

/-- The mutually recursive steps of the composer, with the same fuel. -/
structure TellsWithin (fuel : Nat) : Prop where
  node : forall context, Tells (node fuel context)
  nodeUnless : forall context before kinds, Tells (nodeUnless fuel context before kinds)
  entryValue : forall context kinds, Tells (entryValue fuel context kinds)
  blockItems : Tells (blockItems fuel)
  indentlessItems : Tells (indentlessItems fuel)
  blockEntries : Tells (blockEntries fuel)
  flowItems : forall first, Tells (flowItems fuel first)
  flowEntries : forall first, Tells (flowEntries fuel first)

theorem tellsWithin (fuel : Nat) : TellsWithin fuel := by
  induction fuel with
  | zero =>
      constructor
      all_goals intros
      · mvcgen [Compose.node]; exact told_syntaxError
      · mvcgen [Compose.nodeUnless]; exact told_syntaxError
      · mvcgen [Compose.entryValue]; exact told_syntaxError
      · mvcgen [Compose.blockItems]; exact told_syntaxError
      · mvcgen [Compose.indentlessItems]; exact told_syntaxError
      · mvcgen [Compose.blockEntries]; exact told_syntaxError
      · mvcgen [Compose.flowItems]; exact told_syntaxError
      · mvcgen [Compose.flowEntries]; exact told_syntaxError
  | succ fuel ih =>
      have node := ih.node
      have nodeUnless := ih.nodeUnless
      have entryValue := ih.entryValue
      have blockItems := ih.blockItems
      have indentlessItems := ih.indentlessItems
      have blockEntries := ih.blockEntries
      have flowItems := ih.flowItems
      have flowEntries := ih.flowEntries
      constructor
      all_goals intros
      · mvcgen [Compose.node, indentlessItems, blockItems, blockEntries, flowItems, flowEntries]
        all_goals exact fun _ => rfl
      · mvcgen [Compose.nodeUnless, node]
      · mvcgen [Compose.entryValue, nodeUnless]
      · mvcgen [Compose.blockItems, nodeUnless, blockItems]
        all_goals exact told_syntaxError
      · mvcgen [Compose.indentlessItems, nodeUnless, indentlessItems]
      · mvcgen [Compose.blockEntries, nodeUnless, entryValue, blockEntries]
        all_goals exact told_syntaxError
      · mvcgen [Compose.flowItems, node, nodeUnless, entryValue, flowItems]
        all_goals exact told_syntaxError
      · mvcgen [Compose.flowEntries, node, nodeUnless, entryValue, flowEntries]
        all_goals exact told_syntaxError

@[spec] theorem tells_node (fuel : Nat) (context : Context) : Tells (node fuel context) :=
  (tellsWithin fuel).node context

@[spec] theorem tells_directives (fuel : Nat) (versioned : Bool)
    (handles : List (String × String)) : Tells (directives fuel versioned handles) := by
  induction fuel generalizing versioned handles with
  | zero =>
      mvcgen [directives]
      exact told_syntaxError
  | succ fuel ih =>
      mvcgen [directives, ih]
      all_goals exact told_syntaxError

@[spec] theorem tells_skipDocumentEnds (fuel : Nat) : Tells (skipDocumentEnds fuel) := by
  induction fuel with
  | zero => mvcgen [skipDocumentEnds]
  | succ fuel ih => mvcgen [skipDocumentEnds, ih]

@[spec] theorem tells_explicitStart (fuel : Nat) : Tells (explicitStart fuel) := by
  mvcgen [explicitStart]
  exact told_syntaxError

theorem Tells.bind {α β : Type} {first : Compose α} {next : α -> Compose β} (tells : Tells first)
    (rest : forall result, Tells (next result)) : Tells (first >>= next) :=
  Triple.bind first next tells rest

theorem tells_singleDocument (fuel : Nat) : Tells (singleDocument fuel) := by
  refine tells_take.bind fun _ => tells_peek.bind fun first => ?_
  extract_lets isExplicit close finish
  have closes (root : Nat) : Tells (close root) := by
    refine (tells_at? _).bind fun atEnd => ?_
    split
    · refine tells_take.bind fun _ => ?_
      mvcgen
      exact fun _ => rfl
    · mvcgen
      exact fun _ => rfl
  have finishes (begun : Option Mark) : Tells (finish begun) := by
    change Tells (if begun.isNone = true then _ else _)
    split
    · mvcgen
    · refine tells_peek.bind fun next => ?_
      extract_lets isEmpty
      split
      · exact (tells_empty _).bind closes
      · exact (tells_node fuel _).bind closes
  split
  · exact (tells_explicitStart fuel).bind finishes
  · exact Tells.bind (by mvcgen) finishes

end Compose

/-- A tame text has a graph, or there is a message. -/
theorem Graph.told_of_ofText {text : List Char} (tame : Tame text) {failure : Failure}
    (fails : Graph.ofText text = .error failure) : failure.Told := by
  rcases scanned : Token.ofText text with ⟨tokens, stop⟩
  have told : (stop.getD .syntaxError).Told := by
    cases stop with
    | none => exact told_syntaxError
    | some failure =>
        rw [Token.eq_syntaxError_of_ofText tame (congrArg Prod.snd scanned)]
        exact told_syntaxError
  have composes := triple_iff.mp (Compose.tells_singleDocument (4 * tokens.length + 8))
    ⟨tokens, stop.getD .syntaxError, Compose.defaultHandles, [], #[]⟩ told
  rw [Graph.ofText, scanned] at fails
  rcases Outcome.bind_eq_error_iff.mp fails with stopped | ⟨result, _, finished⟩
  · rw [stopped] at composes
    exact composes
  · cases finished

end Yaml
end RouteIR
