import RouteIR.Config
import RouteIR.Interface
import RouteIR.Proofs.FileSystem
import RouteIR.Source.Loading
import RouteIR.World

namespace RouteIR
namespace World

/-!
# Runs in a world

A run gives a value and leaves another world.  Both are taken apart here along the steps of
the run, so that what a command does follows from what each of its steps does.
-/

variable {α β : Type} {world : World}

/-- What a run gives in a world. -/
def value (world : World) (run : Run α) : α := (run.run world).1

/-- The world that a run leaves. -/
def after (world : World) (run : Run α) : World := (run.run world).2

@[simp] theorem value_pure (result : α) : world.value (pure result : Run α) = result := rfl

@[simp] theorem after_pure (result : α) : world.after (pure result : Run α) = world := rfl

@[simp] theorem value_bind (run : Run α) (next : α -> Run β) :
    world.value (run >>= next) = (world.after run).value (next (world.value run)) := rfl

@[simp] theorem after_bind (run : Run α) (next : α -> Run β) :
    world.after (run >>= next) = (world.after run).after (next (world.value run)) := rfl

/-- A world in which something more has been said on the stream for diagnostics. -/
def said (world : World) (text : String) : World :=
  { world with diagnostics := world.diagnostics ++ text }

@[simp] theorem said_files (text : String) : (world.said text).files = world.files := rfl

@[simp] theorem said_output (text : String) : (world.said text).output = world.output := rfl

@[simp] theorem said_markup (text : String) : (world.said text).markup = world.markup := rfl

theorem said_empty : world.said "" = world := by rw [said, String.append_empty]

theorem said_said (first second : String) :
    (world.said first).said second = world.said (first ++ second) := by
  rw [said, said, said, String.append_assoc]

/-- A world with other diagnostics and other notes. -/
def reporting (world : World) (diagnostics : String) (notes : List String) : World :=
  { world with diagnostics := diagnostics, notes := notes }

/-! ## Runs that only ask -/

/-- A run that leaves every world as it was, and to which it is all one what has been said. -/
structure Asks (run : Run α) : Prop where
  leaves : forall world : World, world.after run = world
  deaf : forall (world : World) (diagnostics : String) (notes : List String),
    (world.reporting diagnostics notes).value run = world.value run

theorem Asks.said {run : Run α} (asks : Asks run) (world : World) (text : String) :
    (world.said text).value run = world.value run :=
  asks.deaf world (world.diagnostics ++ text) world.notes

theorem asks_pure (result : α) : Asks (pure result : Run α) := ⟨fun _ => rfl, fun _ _ _ => rfl⟩

theorem Asks.bind {run : Run α} {next : α -> Run β} (first : Asks run)
    (rest : forall result, Asks (next result)) : Asks (run >>= next) where
  leaves world := by rw [after_bind, first.leaves, (rest _).leaves]
  deaf world diagnostics notes := by
    rw [value_bind, value_bind, first.leaves, first.leaves, first.deaf, (rest _).deaf]

/-- What is asked of two worlds comes to the same where each question does. -/
theorem Asks.agree {left right : World} {first : Run α} {next : α -> Run β}
    (asks : Asks first) (same : left.value first = right.value first)
    (rest : forall result, left.value (next result) = right.value (next result)) :
    left.value (first >>= next) = right.value (first >>= next) := by
  rw [value_bind, value_bind, asks.leaves, asks.leaves, same, rest]

theorem asks_environment (name : String) : Asks (Host.environment name) :=
  ⟨fun _ => rfl, fun _ _ _ => rfl⟩

theorem asks_currentDirectory : Asks Host.currentDirectory := ⟨fun _ => rfl, fun _ _ _ => rfl⟩

theorem asks_homeDirectory : Asks Host.homeDirectory := ⟨fun _ => rfl, fun _ _ _ => rfl⟩

theorem asks_system : Asks Host.system := ⟨fun _ => rfl, fun _ _ _ => rfl⟩

theorem asks_isTerminal : Asks Host.isTerminal := ⟨fun _ => rfl, fun _ _ _ => rfl⟩

theorem asks_kindAt (path : Path) : Asks (Host.kindAt path) := ⟨fun _ => rfl, fun _ _ _ => rfl⟩

theorem asks_readFile (path : Path) : Asks (Host.readFile path) := ⟨fun _ => rfl, fun _ _ _ => rfl⟩

theorem asks_readInput : Asks Host.readInput := ⟨fun _ => rfl, fun _ _ _ => rfl⟩

theorem asks_fetch (address : String) : Asks (Host.fetch address) :=
  ⟨fun _ => rfl, fun _ _ _ => rfl⟩

theorem asks_readMarkup (markup : String) : Asks (Host.readMarkup markup) :=
  ⟨fun _ => rfl, fun _ _ _ => rfl⟩

theorem asks_startTimer : Asks Host.startTimer := ⟨fun _ => rfl, fun _ _ _ => rfl⟩

theorem asks_elapsed : Asks Host.elapsed := ⟨fun _ => rfl, fun _ _ _ => rfl⟩

theorem asks_timestamp : Asks Host.timestamp := ⟨fun _ => rfl, fun _ _ _ => rfl⟩

theorem asks_loadProject : Asks Config.loadProject := by
  refine asks_currentDirectory.bind fun directory => ?_
  refine (asks_kindAt _).bind fun kind => ?_
  split
  · exact asks_pure _
  · refine (asks_readFile _).bind fun content => ?_
    split <;> exact asks_pure _
  · exact asks_pure _

/-- A configuration is looked up without a trace. -/
theorem asks_resolve (arguments : ConfigArguments) : Asks (Config.resolve arguments) := by
  refine asks_loadProject.bind fun project => ?_
  split
  · exact asks_pure _
  · exact (asks_environment _).bind fun _ => (asks_environment _).bind fun _ =>
      (asks_environment _).bind fun _ => asks_pure _

/-- A document is loaded without a trace. -/
theorem asks_load (source : String) : Asks (Source.load source) := by
  unfold Source.load
  split
  · exact asks_readInput.bind fun _ => asks_pure _
  · split
    · split
      · exact asks_pure _
      · refine (asks_fetch _).bind fun answer => ?_
        split <;> exact asks_pure _
    · refine (asks_kindAt _).bind fun kind => ?_
      split
      · exact asks_pure _
      · refine (asks_readFile _).bind fun content => ?_
        split <;> exact asks_pure _
      · exact asks_pure _

/-! ## Runs that only speak -/

/-- A run that does nothing but add to the diagnostics. -/
def Speaks (run : Run α) : Prop :=
  forall world : World, Exists fun text => world.after run = world.said text

theorem Asks.speaks {run : Run α} (asks : Asks run) : Speaks run :=
  fun world => ⟨"", by rw [asks.leaves, said_empty]⟩

theorem Speaks.bind {run : Run α} {next : α -> Run β} (first : Speaks run)
    (rest : forall result, Speaks (next result)) : Speaks (run >>= next) := by
  intro world
  rcases first world with ⟨text, told⟩
  rcases rest (world.value run) (world.after run) with ⟨more, toldMore⟩
  exact ⟨text ++ more, by rw [after_bind, toldMore, told, said_said]⟩

theorem speaks_pure (result : α) : Speaks (pure result : Run α) := (asks_pure result).speaks

theorem speaks_print (text : String) : Speaks (Host.print .diagnostics text : Run Unit) :=
  fun _ => ⟨text, rfl⟩

theorem Speaks.discard {run : Run α} (speaks : Speaks run) : Speaks (discard run) := speaks

theorem Speaks.files {run : Run α} (speaks : Speaks run) (world : World) :
    (world.after run).files = world.files := by
  rcases speaks world with ⟨text, told⟩
  rw [told, said_files]

theorem Speaks.output {run : Run α} (speaks : Speaks run) (world : World) :
    (world.after run).output = world.output := by
  rcases speaks world with ⟨text, told⟩
  rw [told, said_output]

theorem Speaks.markup {run : Run α} (speaks : Speaks run) (world : World) :
    (world.after run).markup = world.markup := by
  rcases speaks world with ⟨text, told⟩
  rw [told, said_markup]

/-! ## Runs that may stop -/

variable {ε : Type}

theorem value_stoppable_bind (first : ExceptT ε Run α) (next : α -> ExceptT ε Run β) :
    world.value (first >>= next).run =
      match world.value first.run with
      | .ok result => (world.after first.run).value (next result).run
      | .error reason => .error reason := by
  rw [ExceptT.run_bind, value_bind]
  cases world.value first.run <;> rfl

theorem after_stoppable_bind (first : ExceptT ε Run α) (next : α -> ExceptT ε Run β) :
    world.after (first >>= next).run =
      match world.value first.run with
      | .ok result => (world.after first.run).after (next result).run
      | .error _ => world.after first.run := by
  rw [ExceptT.run_bind, after_bind]
  cases world.value first.run <;> rfl

theorem Speaks.stoppable_bind {first : ExceptT ε Run α} {next : α -> ExceptT ε Run β}
    (speaks : Speaks first.run) (rest : forall result, Speaks (next result).run) :
    Speaks (first >>= next).run := by
  rw [ExceptT.run_bind]
  refine speaks.bind fun outcome => ?_
  cases outcome with
  | ok result => exact rest result
  | error reason => exact speaks_pure _

/-- A run that has the same outcome in every world. -/
def Gives (run : ExceptT ε Run α) (outcome : Except ε α) : Prop :=
  forall world : World, world.value run.run = outcome

theorem gives_pure (result : α) : Gives (pure result : ExceptT ε Run α) (.ok result) :=
  fun _ => rfl

theorem Gives.bind {first : ExceptT ε Run α} {next : α -> ExceptT ε Run β}
    {outcome : Except ε α} {rest : α -> Except ε β} (gives : Gives first outcome)
    (givesRest : forall result, Gives (next result) (rest result)) :
    Gives (first >>= next) (outcome >>= rest) := by
  intro world
  rw [value_stoppable_bind, gives world]
  cases outcome with
  | ok result => exact givesRest result _
  | error reason => rfl

/-! ## Traced work -/

section Tracing

variable {tracers : List (Trace.Tracer Run ε)}

theorem speaks_emit (each : forall tracer, tracer ∈ tracers -> forall event, Speaks (tracer event))
    (event : Trace.Event ε) : Speaks (Trace.emit tracers event) := by
  induction tracers with
  | nil => exact speaks_pure _
  | cons tracer rest ih =>
      refine (each tracer List.mem_cons_self event).discard.bind fun _ => ih ?_
      exact List.forall_mem_of_forall_mem_cons each

/-- Whatever is told of a stage, its outcome is that of its work. -/
theorem gives_observe (stage : String) (counts : α -> Trace.Counts)
    (work : Unit -> Except ε α) :
    Gives (Trace.observe tracers stage counts work) (work ()) := by
  intro world
  rw [Trace.observe, ExceptT.run_mk, value_bind]
  cases work () <;> rfl

theorem speaks_observe
    (each : forall tracer, tracer ∈ tracers -> forall event, Speaks (tracer event))
    (stage : String) (counts : α -> Trace.Counts) (work : Unit -> Except ε α) :
    Speaks (Trace.observe tracers stage counts work).run := by
  refine (speaks_emit each _).bind fun _ => ?_
  split
  · exact (speaks_emit each _).bind fun _ => speaks_pure _
  · exact (speaks_emit each _).bind fun _ => speaks_pure _

end Tracing

section Stages

variable {tracers : List (Trace.Tracer Run Failure)}

/-- An interface is the same with tracers and without. -/
theorem gives_traced (tree : Tree) :
    Gives (Interface.traced tracers tree) (Interface.ofTree tree) :=
  (gives_observe _ _ _).bind fun _ => (gives_observe _ _ _).bind fun _ =>
    (gives_observe _ _ _).bind fun _ => (gives_observe _ _ _).bind fun _ => gives_pure _

theorem speaks_traced
    (each : forall tracer, tracer ∈ tracers -> forall event, Speaks (tracer event))
    (tree : Tree) : Speaks (Interface.traced tracers tree).run :=
  (speaks_observe each _ _ _).stoppable_bind fun _ =>
    (speaks_observe each _ _ _).stoppable_bind fun _ =>
      (speaks_observe each _ _ _).stoppable_bind fun _ =>
        (speaks_observe each _ _ _).stoppable_bind fun _ => speaks_pure _

end Stages
end World
end RouteIR
