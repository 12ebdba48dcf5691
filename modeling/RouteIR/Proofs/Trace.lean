import RouteIR.Trace

namespace RouteIR
namespace Trace

/-!
# What tracers see

Traced work tells its events to every tracer in turn and ends as it would have ended without
tracers, whatever their hooks do.  The events are determined by how the stages end, and a log of
the calls shows each tracer getting all of them, in their order.
-/

variable {m : Type -> Type} [Monad m] {ε α β : Type}

/-- The events of a stage, and of what follows it where it succeeds. -/
def stageEvents (stage : String) (counts : α -> Counts) (outcome : Except ε α)
    (next : α -> List (Event ε)) : List (Event ε) :=
  match outcome with
  | .ok value => ⟨stage, .start, [], none⟩ :: ⟨stage, .finish, counts value, none⟩ :: next value
  | .error error => [⟨stage, .start, [], none⟩, ⟨stage, .error, [], some error⟩]

/-- The events of stages in their order, and how the work ends: a stage that succeeds begins and
ends before the next one begins, and the first that fails begins and reports its failure. -/
inductive Passage : List String -> Except ε α -> List (Event ε) -> Prop
  | done (value : α) : Passage [] (.ok value) []
  | passed {stage : String} {stages : List String} {outcome : Except ε α}
      {events : List (Event ε)} (counts : Counts) (rest : Passage stages outcome events) :
      Passage (stage :: stages) outcome
        (⟨stage, .start, [], none⟩ :: ⟨stage, .finish, counts, none⟩ :: events)
  | stopped (stage : String) (stages : List String) (error : ε) :
      Passage (stage :: stages) (.error error)
        [⟨stage, .start, [], none⟩, ⟨stage, .error, [], some error⟩]

theorem passage_stageEvents {stage : String} {stages : List String} {counts : α -> Counts}
    {work : Except ε α} {next : α -> Except ε β} {events : α -> List (Event ε)}
    (rest : forall value, Passage stages (next value) (events value)) :
    Passage (stage :: stages) (work >>= next) (stageEvents stage counts work events) := by
  cases work with
  | ok value => exact .passed (counts value) (rest value)
  | error error => exact .stopped stage stages error

/-! ## Events one after the other -/

/-- Each event goes to all tracers before the next one does. -/
def emitAll (tracers : List (Tracer m ε)) (events : List (Event ε)) : m Unit :=
  events.forM (emit tracers)

@[simp] theorem emitAll_nil (tracers : List (Tracer m ε)) : emitAll tracers [] = pure () := rfl

@[simp] theorem emitAll_cons (tracers : List (Tracer m ε)) (event : Event ε)
    (events : List (Event ε)) :
    emitAll tracers (event :: events) = emit tracers event >>= fun _ => emitAll tracers events :=
  rfl

/-- Work that tells its events to the tracers and then ends in an outcome. -/
def Tells (tracers : List (Tracer m ε)) (work : ExceptT ε m α) (events : List (Event ε))
    (outcome : Except ε α) : Prop :=
  work.run = do
    emitAll tracers events
    return outcome

variable [LawfulMonad m] {tracers : List (Tracer m ε)}

theorem tells_pure (value : α) : Tells tracers (pure value) [] (.ok value) := by
  rw [Tells, emitAll_nil, pure_bind, ExceptT.run_pure]

/-- A stage tells its own events, then those of what follows it. -/
theorem tells_observe {stage : String} {counts : α -> Counts} {work : Unit -> Except ε α}
    {next : α -> ExceptT ε m β} {events : α -> List (Event ε)} {outcome : α -> Except ε β}
    (rest : forall value, Tells tracers (next value) (events value) (outcome value)) :
    Tells tracers (observe tracers stage counts work >>= next)
      (stageEvents stage counts (work ()) events) (work () >>= outcome) := by
  rw [Tells, observe, ExceptT.run_bind, ExceptT.run_mk]
  cases work () with
  | ok value =>
      have later : (next value).run = _ := rest value
      simp only [stageEvents, emitAll_cons, bind_assoc, pure_bind, later]
      rfl
  | error error =>
      simp only [stageEvents, emitAll_cons, emitAll_nil, bind_assoc, pure_bind]
      rfl

/-! ## A log of the calls -/

/-- A tracer that notes in a log, under its index, what it is called with before it runs. -/
def noting (tracer : Tracer m ε) (index : Nat) : Tracer (StateT (List (Nat × Event ε)) m) ε :=
  fun event => do
    modify (· ++ [(index, event)])
    tracer event

/-- The tracers of a list, each noting its calls under its place in the list. -/
def logged (tracers : List (Tracer m ε)) : List (Tracer (StateT (List (Nat × Event ε)) m) ε) :=
  tracers.zipIdx.map fun entry => noting entry.1 entry.2

/-- The events that the tracer at an index is called with, in their order. -/
def callsTo (index : Nat) (log : List (Nat × Event ε)) : List (Event ε) :=
  (log.filter (·.1 = index)).map (·.2)

/-- The calls that an event leads to: one for each tracer, in the order of the list. -/
def callsOf (count : Nat) (event : Event ε) : List (Nat × Event ε) :=
  (List.range count).map (·, event)

theorem run_noting (tracer : Tracer m ε) (index : Nat) (event : Event ε)
    (log : List (Nat × Event ε)) :
    (discard (noting tracer index event)).run log =
      discard (tracer event) >>= fun _ => pure ((), log ++ [(index, event)]) := by
  have lifted : (liftM (tracer event) : StateT (List (Nat × Event ε)) m _).run
      (log ++ [(index, event)]) = tracer event >>= fun answer =>
        pure (answer, log ++ [(index, event)]) := StateT.run_monadLift _ _
  simp only [discard, map_const, Function.comp_apply, noting, map_eq_pure_bind, StateT.run_bind,
    StateT.run_modify, StateT.run_pure, pure_bind, bind_assoc, lifted]

/-- An event reaches every tracer once, whatever those before it end with. -/
theorem run_emit_logged (tracers : List (Tracer m ε)) (event : Event ε)
    (log : List (Nat × Event ε)) :
    (emit (logged tracers) event).run log =
      emit tracers event >>= fun _ => pure ((), log ++ callsOf tracers.length event) := by
  suffices general : forall start log,
      (emit ((tracers.zipIdx start).map fun entry => noting entry.1 entry.2) event).run log =
        emit tracers event >>= fun _ =>
          pure ((), log ++ (List.range' start tracers.length).map (·, event)) by
    rw [callsOf, List.range_eq_range']
    exact general 0 log
  induction tracers with
  | nil =>
      intro start log
      simp [emit]
  | cons tracer rest ih =>
      intro start log
      have first : (emit (((tracer :: rest).zipIdx start).map fun entry =>
          noting entry.1 entry.2) event).run log =
          (discard (noting tracer start event)).run log >>= fun noted =>
            (emit ((rest.zipIdx (start + 1)).map fun entry => noting entry.1 entry.2) event).run
              noted.2 := rfl
      have plain : emit (tracer :: rest) event =
          discard (tracer event) >>= fun _ => emit rest event := rfl
      rw [first, run_noting, bind_assoc, plain, bind_assoc]
      simp only [pure_bind, ih, List.length_cons, List.range'_succ, List.map_cons,
        List.append_assoc, List.singleton_append]

/-- Events reach the tracers one after the other, and each of them every tracer. -/
theorem run_emitAll_logged (tracers : List (Tracer m ε)) (events : List (Event ε))
    (log : List (Nat × Event ε)) :
    (emitAll (logged tracers) events).run log =
      emitAll tracers events >>= fun _ => pure ((), log ++ events.flatMap (callsOf tracers.length)) := by
  induction events generalizing log with
  | nil => simp
  | cons event rest ih =>
      rw [emitAll_cons, emitAll_cons, StateT.run_bind, run_emit_logged, bind_assoc, bind_assoc]
      simp only [pure_bind, ih, List.flatMap_cons, List.append_assoc]

theorem callsTo_append (index : Nat) (first second : List (Nat × Event ε)) :
    callsTo index (first ++ second) = callsTo index first ++ callsTo index second := by
  rw [callsTo, List.filter_append, List.map_append]
  rfl

theorem callsTo_callsOf (count index : Nat) (event : Event ε) :
    callsTo index (callsOf count event) = if index < count then [event] else [] := by
  induction count with
  | zero => rfl
  | succ count ih =>
      have last : callsOf (count + 1) event = callsOf count event ++ [(count, event)] := by
        rw [callsOf, List.range_succ, List.map_append]
        rfl
      rw [last, callsTo_append, ih]
      rcases Nat.lt_trichotomy index count with less | rfl | more
      · simp [callsTo, less, Nat.lt_succ_of_lt less, Nat.ne_of_gt less]
      · simp [callsTo]
      · simp [callsTo, Nat.not_lt_of_gt more, Nat.ne_of_lt more, Nat.not_lt_of_ge more]

/-- A tracer of the list is called with every event once, in their order. -/
theorem callsTo_flatMap (count index : Nat) (events : List (Event ε)) :
    callsTo index (events.flatMap (callsOf count)) = if index < count then events else [] := by
  induction events with
  | nil => simp [callsTo]
  | cons event rest ih =>
      rw [List.flatMap_cons, callsTo_append, callsTo_callsOf, ih]
      split <;> rfl

end Trace
end RouteIR
