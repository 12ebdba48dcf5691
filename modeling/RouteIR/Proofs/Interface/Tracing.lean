import RouteIR.Interface
import RouteIR.Proofs.Trace

namespace RouteIR
namespace Interface

/-!
# Tracers change nothing

The work on a document ends with tracers as it ends without them, whatever their hooks do and
however many of them fail.  Each tracer is called with the same events, which follow from how
the four stages end.
-/

/-- The events of the work on a tree: those of each stage that is reached. -/
def transitions (tree : Tree) : List (Trace.Event Failure) :=
  Trace.stageEvents "read" documentCounts (documentOf tree) fun document =>
    Trace.stageEvents "components" componentCounts (componentsOf document) fun components =>
      Trace.stageEvents "routes" routeCounts (routesOf components document) fun routes =>
        Trace.stageEvents "plan" planCounts (DecoderPlan.forRoutes routes components) fun _ => []

theorem passage_transitions (tree : Tree) :
    Trace.Passage ["read", "components", "routes", "plan"] (ofTree tree) (transitions tree) := by
  apply Trace.passage_stageEvents
  intro document
  apply Trace.passage_stageEvents
  intro components
  apply Trace.passage_stageEvents
  intro routes
  apply Trace.passage_stageEvents
  intro decoders
  exact .done _

theorem tells_traced {m : Type -> Type} [Monad m] [LawfulMonad m]
    (tracers : List (Trace.Tracer m Failure)) (tree : Tree) :
    Trace.Tells tracers (traced tracers tree) (transitions tree) (ofTree tree) := by
  apply Trace.tells_observe
  intro document
  apply Trace.tells_observe
  intro components
  apply Trace.tells_observe
  intro routes
  apply Trace.tells_observe
  intro decoders
  exact Trace.tells_pure _

variable {σ : Type}

/-- How the work on a tree ends under tracers that share a state, and their calls in order. -/
def watched (tracers : List (Trace.Tracer (StateM σ) Failure)) (tree : Tree) (state : σ) :
    Except Failure Interface × List (Nat × Trace.Event Failure) :=
  (((traced (Trace.logged tracers) tree).run.run []).run state).1

theorem watched_eq (tracers : List (Trace.Tracer (StateM σ) Failure)) (tree : Tree) (state : σ) :
    watched tracers tree state =
      (ofTree tree, (transitions tree).flatMap (Trace.callsOf tracers.length)) := by
  have told : (traced (Trace.logged tracers) tree).run = _ :=
    tells_traced (Trace.logged tracers) tree
  rw [watched, told, StateT.run_bind, Trace.run_emitAll_logged]
  rfl

/-- The outcome is that without tracers, and whatever the others do and answer, each tracer is
called with a start and an end for every stage that succeeds, and for the first one that fails
with a start and the failure that the work ends with. -/
theorem tracing_transparent (tracers : List (Trace.Tracer (StateM σ) Failure)) (tree : Tree)
    (state : σ) :
    (traced (m := Id) [] tree).run.run = ofTree tree ∧
      ((traced tracers tree).run.run state).1 = ofTree tree ∧
      (watched tracers tree state).1 = ofTree tree ∧
      (forall index, Trace.callsTo index (watched tracers tree state).2 =
        if index < tracers.length then transitions tree else []) ∧
      Trace.Passage ["read", "components", "routes", "plan"] (ofTree tree)
        (transitions tree) := by
  refine ⟨?_, ?_, ?_, ?_, passage_transitions tree⟩
  · have told : (traced (m := Id) [] tree).run = _ := tells_traced [] tree
    rw [told]
    rfl
  · have told : (traced tracers tree).run = _ := tells_traced tracers tree
    rw [told]
    rfl
  · rw [watched_eq]
  · intro index
    rw [watched_eq]
    exact Trace.callsTo_flatMap tracers.length index (transitions tree)

end Interface
end RouteIR
