namespace RouteIR
namespace Trace

/-!
# Tracing stages

A stage begins with one event and ends with another, unless it is interrupted.  Each
event goes to every tracer in turn.  A tracer may have effects and may fail; its failure
is not anyone's concern, so that the tracers after it and the traced work go on as they
would without it.
-/

inductive Phase where
  | start
  | finish
  | error
deriving DecidableEq, Repr

def Phase.text : Phase → String
  | start => "start"
  | finish => "end"
  | error => "error"

/-- Named counters, in the order in which they were first set. -/
abbrev Counts := List (String × Int)

structure Event (ε : Type) where
  stage : String
  phase : Phase
  counts : Counts
  error : Option ε
deriving DecidableEq, Repr

/-- What is told of every event.  It may fail with a text. -/
abbrev Tracer (m : Type → Type) (ε : Type) := Event ε → m (Except String Unit)

variable {m : Type → Type} [Monad m] {ε α : Type}

def emit (tracers : List (Tracer m ε)) (event : Event ε) : m Unit :=
  tracers.forM fun tracer => discard (tracer event)

/-- How a stage ends. -/
inductive Ending (ε : Type) where
  | success
  | failure (error : ε)
  | interruption
deriving DecidableEq, Repr

/-- The event that closes a stage. -/
def closing? (stage : String) (counts : Counts) : Ending ε → Option (Event ε)
  | .success => some ⟨stage, .finish, counts, none⟩
  | .failure error => some ⟨stage, .error, counts, some error⟩
  | .interruption => none

def begin (tracers : List (Tracer m ε)) (stage : String) : m Unit :=
  emit tracers ⟨stage, .start, [], none⟩

def finish (tracers : List (Tracer m ε)) (stage : String) (counts : Counts)
    (ending : Ending ε) : m Unit :=
  (closing? stage counts ending).forM (emit tracers)

/-- Does the work of a stage between its two events, and passes the outcome on.  The
counters are those of the result. -/
def observe (tracers : List (Tracer m ε)) (stage : String) (counts : α → Counts)
    (work : Unit → Except ε α) : ExceptT ε m α := ExceptT.mk do
  begin tracers stage
  match work () with
  | .ok value =>
      finish tracers stage (counts value) .success
      return .ok value
  | .error error =>
      finish tracers stage [] (.failure error)
      return .error error

/-! ## Tracers -/

/-- Keeps every event in a state, the latest last. -/
def recorder : Tracer (StateM (List (Event ε))) ε := fun event => do
  modify (· ++ [event])
  return .ok ()

def countsText (counts : Counts) : String :=
  if counts.isEmpty then ""
  else " (" ++ ", ".intercalate (counts.map fun entry => entry.1 ++ "=" ++ toString entry.2) ++ ")"

/-- The line that reports an event, given the elapsed milliseconds and the text of
errors. -/
def describe (elapsed : String) (errorText : ε → String) (event : Event ε) : String :=
  "stage " ++ event.stage ++ ": " ++
    match event.phase with
    | .start => "start"
    | .finish => "done in " ++ elapsed ++ " ms" ++ countsText event.counts
    | .error => "failed with " ++ ((event.error.map errorText).getD "None")

end Trace
end RouteIR
