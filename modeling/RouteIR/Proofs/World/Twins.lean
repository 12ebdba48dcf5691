import RouteIR.Proofs.FileSystem.Alike
import RouteIR.Proofs.OutputFile

namespace RouteIR
namespace World

/-!
# The same run in two worlds

A run is compared with itself, or with another run, in two worlds at once: from related worlds
come related values and related worlds.  One relation is between worlds that differ in one file
and in some variables.  It is kept by all that neither reads this file nor asks for one of these
variables, and so it is kept by writing, whatever file is written.
-/

variable {α β γ δ ε : Type}

/-- From worlds that are related before, the two runs come to related values and to worlds that
are related after. -/
def Paired (before after : World -> World -> Prop) (related : α -> β -> Prop) (run : Run α)
    (rerun : Run β) : Prop :=
  forall left right, before left right ->
    related (left.value run) (right.value rerun) ∧ after (left.after run) (right.after rerun)

section Pairing

variable {before middle after wider : World -> World -> Prop} {related : α -> β -> Prop}
  {further : γ -> δ -> Prop}

theorem paired_pure {first : α} {second : β} (values : related first second) :
    Paired before before related (pure first : Run α) (pure second : Run β) :=
  fun _ _ worlds => ⟨values, worlds⟩

theorem Paired.bind {run : Run α} {rerun : Run β} {next : α -> Run γ} {follow : β -> Run δ}
    (first : Paired before middle related run rerun)
    (rest : forall one other, related one other ->
      Paired middle after further (next one) (follow other)) :
    Paired before after further (run >>= next) (rerun >>= follow) := by
  intro left right worlds
  rcases first left right worlds with ⟨values, later⟩
  exact rest _ _ values _ _ later

theorem Paired.mono {run : Run α} {rerun : Run β} (paired : Paired before after related run rerun)
    (weakens : forall left right, after left right -> wider left right) :
    Paired before wider related run rerun := by
  intro left right worlds
  rcases paired left right worlds with ⟨values, later⟩
  exact ⟨values, weakens _ _ later⟩

theorem Paired.stoppable_bind {run : ExceptT ε Run α} {rerun : ExceptT ε Run β}
    {next : α -> ExceptT ε Run γ} {follow : β -> ExceptT ε Run δ}
    (first : Paired before middle (Outcome.Coincide related) run.run rerun.run)
    (weakens : forall left right, middle left right -> after left right)
    (rest : forall one other, related one other ->
      Paired middle after (Outcome.Coincide further) (next one).run (follow other).run) :
    Paired before after (Outcome.Coincide further) (run >>= next).run (rerun >>= follow).run := by
  rw [ExceptT.run_bind, ExceptT.run_bind]
  refine first.bind fun one other values => ?_
  cases values with
  | ok values => exact rest _ _ values
  | error failure => exact (paired_pure (.error failure)).mono weakens

/-- A run that keeps a relation between worlds, and gives the same in both. -/
abbrev Keeps (kept : World -> World -> Prop) (run : Run α) : Prop := Paired kept kept Eq run run

variable {kept : World -> World -> Prop}

theorem keeps_pure (result : α) : Keeps kept (pure result : Run α) := paired_pure rfl

theorem Keeps.bind {run : Run α} {next : α -> Run β} (first : Keeps kept run)
    (rest : forall result, Keeps kept (next result)) : Keeps kept (run >>= next) :=
  Paired.bind first fun one _ same => same ▸ rest one

theorem Keeps.discard {run : Run α} (keeps : Keeps kept run) : Keeps kept (discard run) :=
  fun left right worlds => ⟨rfl, (keeps left right worlds).2⟩

theorem keeps_forM {step : α -> Run PUnit} (each : forall item, Keeps kept (step item))
    (items : List α) : Keeps kept (items.forM step) := by
  induction items with
  | nil => exact keeps_pure _
  | cons item rest ih => exact (each item).bind fun _ => ih

/-- A run that stops the same way in both worlds, or goes on. -/
theorem keeps_stoppable_bind {run : ExceptT ε Run α} {next : α -> ExceptT ε Run β}
    (first : Keeps kept run.run) (rest : forall result, Keeps kept (next result).run) :
    Keeps kept (run >>= next).run := by
  rw [ExceptT.run_bind]
  refine first.bind fun outcome => ?_
  cases outcome with
  | ok result => exact rest result
  | error reason => exact keeps_pure _

/-! ## Traced work -/

section Tracing

variable {tracers : List (Trace.Tracer Run ε)}

theorem keeps_emit
    (each : forall tracer, tracer ∈ tracers -> forall event, Keeps kept (tracer event))
    (event : Trace.Event ε) : Keeps kept (Trace.emit tracers event) := by
  induction tracers with
  | nil => exact keeps_pure _
  | cons tracer rest ih =>
      refine (each tracer List.mem_cons_self event).discard.bind fun _ => ih ?_
      exact List.forall_mem_of_forall_mem_cons each

theorem keeps_observe
    (each : forall tracer, tracer ∈ tracers -> forall event, Keeps kept (tracer event))
    (stage : String) (counts : α -> Trace.Counts) (work : Unit -> Except ε α) :
    Keeps kept (Trace.observe tracers stage counts work).run := by
  refine (keeps_emit each _).bind fun _ => ?_
  split
  · exact (keeps_emit each _).bind fun _ => keeps_pure _
  · exact (keeps_emit each _).bind fun _ => keeps_pure _

theorem keeps_traced {tracers : List (Trace.Tracer Run Failure)}
    (each : forall tracer, tracer ∈ tracers -> forall event, Keeps kept (tracer event))
    (tree : Tree) : Keeps kept (Interface.traced tracers tree).run :=
  keeps_stoppable_bind (keeps_observe each _ _ _) fun _ =>
    keeps_stoppable_bind (keeps_observe each _ _ _) fun _ =>
      keeps_stoppable_bind (keeps_observe each _ _ _) fun _ =>
        keeps_stoppable_bind (keeps_observe each _ _ _) fun _ => keeps_pure _

end Tracing
end Pairing

/-! ## Worlds that differ in one file and in some variables -/

/-- Two worlds that differ in the content of one file and in hidden variables at most. -/
structure Twins (place : Place) (first second : List UInt8) (hidden : List String)
    (left right : World) : Prop where
  rest : right = { left with files := right.files, environment := right.environment }
  files : left.files.Alike place first second right.files
  environment : forall name, name ∉ hidden ->
    left.environment.lookup name = right.environment.lookup name

section Keeping

variable {place : Place} {first second : List UInt8} {hidden : List String}

/-- What a run does that looks at no file and at no variable. -/
theorem keeps_of_rest {run : Run α}
    (same : forall (world : World) files environment,
      World.value { world with files := files, environment := environment } run =
        world.value run ∧
      World.after { world with files := files, environment := environment } run =
        { world.after run with files := files, environment := environment })
    (still : forall world : World, (world.after run).files = world.files ∧
      (world.after run).environment = world.environment) :
    Keeps (Twins place first second hidden) run := by
  intro left right twins
  have here := same left right.files right.environment
  rw [← twins.rest] at here
  refine ⟨here.1.symm, ?_, ?_, ?_⟩
  · rw [here.2]
  · rw [here.2, (still left).1]
    exact twins.files
  · intro name seen
    rw [here.2, (still left).2]
    exact twins.environment name seen

theorem keeps_environment {name : String} (seen : name ∉ hidden) :
    Keeps (Twins place first second hidden) (Host.environment name) :=
  fun _ _ twins => ⟨twins.environment name seen, twins⟩

theorem keeps_system : Keeps (Twins place first second hidden) Host.system :=
  keeps_of_rest (fun _ _ _ => ⟨rfl, rfl⟩) fun _ => ⟨rfl, rfl⟩

theorem keeps_currentDirectory : Keeps (Twins place first second hidden) Host.currentDirectory :=
  keeps_of_rest (fun _ _ _ => ⟨rfl, rfl⟩) fun _ => ⟨rfl, rfl⟩

theorem keeps_homeDirectory : Keeps (Twins place first second hidden) Host.homeDirectory :=
  keeps_of_rest (fun _ _ _ => ⟨rfl, rfl⟩) fun _ => ⟨rfl, rfl⟩

theorem keeps_readMarkup (markup : String) :
    Keeps (Twins place first second hidden) (Host.readMarkup markup) :=
  keeps_of_rest (fun _ _ _ => ⟨rfl, rfl⟩) fun _ => ⟨rfl, rfl⟩

theorem keeps_timestamp : Keeps (Twins place first second hidden) Host.timestamp :=
  keeps_of_rest (fun _ _ _ => ⟨rfl, rfl⟩) fun _ => ⟨rfl, rfl⟩

theorem keeps_print (stream : Stream) (text : String) :
    Keeps (Twins place first second hidden) (Host.print stream text) :=
  keeps_of_rest (fun _ _ _ => by cases stream <;> exact ⟨rfl, rfl⟩)
    fun _ => by cases stream <;> exact ⟨rfl, rfl⟩

theorem keeps_nextFault : Keeps (Twins place first second hidden) nextFault := by
  refine keeps_of_rest (fun world _ _ => ?_) fun world => ?_
  · cases pending : world.faults <;>
      simp [value, after, nextFault, StateT.run, pending]
  · cases pending : world.faults <;>
      simp [after, nextFault, StateT.run, pending]

theorem keeps_kindAt (path : Path) : Keeps (Twins place first second hidden) (Host.kindAt path) := by
  intro left right twins
  refine ⟨?_, twins⟩
  change left.kindAt path = right.kindAt path
  have current : right.current = left.current := by rw [twins.rest]
  rw [kindAt, kindAt, twins.files.locate, current]
  split
  · rfl
  · cases right.files.locate left.current path with
    | error fault => cases fault <;> rfl
    | ok other =>
        simp only
        rcases twins.files.cases other with same | ⟨here, there⟩
        · rw [same]
        · rw [here, there]

/-- A change of files that ends alike where they are alike. -/
theorem keeps_change {paths : List Path}
    {step : FileSystem -> Place -> Except OsFault FileSystem}
    (alike : forall left right : FileSystem, forall current,
      left.Alike place first second right ->
        FileSystem.Alike.Ends place first second (step left current) (step right current)) :
    Keeps (Twins place first second hidden) (change paths step) := by
  intro left right twins
  have current : right.current = left.current := by rw [twins.rest]
  have ends := alike left.files right.files left.current twins.files
  simp only [value, after, change, StateT.run, current]
  generalize step left.files left.current = one at ends
  generalize step right.files left.current = other at ends
  cases ends with
  | error fault => exact ⟨rfl, twins⟩
  | ok files =>
      refine ⟨rfl, ?_, files, twins.environment⟩
      rw [twins.rest]

theorem keeps_writingStep {paths : List Path}
    {step : FileSystem -> Place -> Except OsFault FileSystem}
    (alike : forall left right : FileSystem, forall current,
      left.Alike place first second right ->
        FileSystem.Alike.Ends place first second (step left current) (step right current)) :
    Keeps (Twins place first second hidden) (writingStep paths step) := by
  refine keeps_nextFault.bind fun fault => ?_
  split
  · exact keeps_pure _
  · exact keeps_change alike

theorem keeps_quietStep : Keeps (Twins place first second hidden) quietStep :=
  keeps_writingStep fun _ _ _ alike => .ok alike

/-! ## Writing a file -/

theorem keeps_makeDirectory (path : Path) :
    Keeps (Twins place first second hidden) (Host.makeDirectory path) :=
  keeps_change fun _ _ _ alike => alike.makeDirectory

theorem keeps_save (path : Path) (text : String) :
    Keeps (Twins place first second hidden) (Host.save path text) :=
  keeps_change fun _ _ _ alike => alike.saveFile _

theorem keeps_remove (path : Path) : Keeps (Twins place first second hidden) (Host.remove path) :=
  Keeps.discard (keeps_change fun _ _ _ alike => alike.removeFile)

theorem keeps_settle (path : Path) (outcome : Except OsError Unit) :
    Keeps (Twins place first second hidden)
      (OutputFile.settle path outcome : Run (Except OsError Unit)) := by
  cases outcome with
  | ok _ => exact keeps_pure _
  | error error =>
      refine (keeps_kindAt path).bind fun kind => ?_
      split <;> exact keeps_pure _

theorem keeps_ensureWithin (depth : Nat) (path : Path) :
    Keeps (Twins place first second hidden)
      (OutputFile.ensureWithin depth path : Run (Except OsError Unit)) := by
  induction depth generalizing path with
  | zero => exact (keeps_makeDirectory path).bind fun outcome => keeps_settle path outcome
  | succ depth ih =>
      refine (keeps_makeDirectory path).bind fun outcome => ?_
      split
      · refine (ih path.parent).bind fun above => ?_
        split
        · exact keeps_pure _
        · exact (keeps_makeDirectory path).bind fun outcome => keeps_settle path outcome
      · exact keeps_settle path _

theorem keeps_ensureDirectory (path : Path) :
    Keeps (Twins place first second hidden)
      (OutputFile.ensureDirectory path : Run (Except OsError Unit)) :=
  keeps_ensureWithin path.parts.length path

theorem keeps_expandHome (path : Path) :
    Keeps (Twins place first second hidden)
      (OutputFile.expandHome path : Run (Except OutputFile.WriteError Path)) := by
  refine keeps_homeDirectory.bind fun home => ?_
  split
  · exact keeps_pure _
  · split <;> exact keeps_pure _

section Temporary

variable {temporary : Path} {name : String}

/-- A path whose last name is not that of the file that differs. -/
def Apart (place : Place) (path : Path) : Prop :=
  Exists fun front => Exists fun name => path.parts = front ++ [name] ∧ name ≠ ".." ∧
    place.getLast? ≠ some name

theorem Apart.locate (apart : Apart place temporary) (files : FileSystem) (current : Place) :
    files.locate current temporary ≠ .ok place := by
  rcases apart with ⟨front, name, ends, named, differs⟩
  exact fun located => differs (FileSystem.getLast?_of_locate ends named located)

theorem keeps_write (apart : Apart place temporary) (text : String) :
    Keeps (Twins place first second hidden) (Host.write temporary text) :=
  keeps_writingStep fun _ _ _ alike => alike.append _ (apart.locate _ _)

theorem keeps_replace (apart : Apart place temporary) (target : Path) :
    Keeps (Twins place first second hidden) (Host.replace temporary target) :=
  keeps_writingStep fun _ _ _ alike => alike.replaceFile (apart.locate _ _)

theorem keeps_fill (apart : Apart place temporary) (text : String) :
    Keeps (Twins place first second hidden) (OutputFile.fill temporary text).run :=
  keeps_stoppable_bind (keeps_write apart text) fun _ =>
    keeps_stoppable_bind keeps_quietStep fun _ =>
      keeps_stoppable_bind keeps_quietStep fun _ => keeps_quietStep

theorem keeps_abandon (error : OsError) :
    Keeps (Twins place first second hidden)
      (OutputFile.abandon temporary error : Run (Except OsError Unit)) := by
  refine keeps_quietStep.bind fun outcome => ?_
  split
  · exact keeps_pure _
  · exact (keeps_remove temporary).bind fun _ => keeps_pure _

theorem keeps_install (apart : Apart place temporary) (target : Path) :
    Keeps (Twins place first second hidden)
      (OutputFile.install temporary target : Run (Except OsError Unit)) := by
  refine (keeps_replace apart target).bind fun outcome => ?_
  split
  · exact keeps_pure _
  · exact (keeps_remove temporary).bind fun _ => keeps_pure _

end Temporary

/-- A temporary file is made under a name that starts with a dot. -/
theorem paired_opening (undotted : forall rest, place.getLast? ≠ some ("." ++ rest))
    (target : Path) :
    Paired (Twins place first second hidden) (Twins place first second hidden)
      (fun one other => one = other ∧ forall temporary, one = .ok temporary -> Apart place temporary)
      (opening target) (opening target) := by
  intro left right twins
  have same : left.temporaryPath target.parent ("." ++ target.name ++ ".") =
      right.temporaryPath target.parent ("." ++ target.name ++ ".") := by
    rw [twins.rest]
    rfl
  have created : Keeps (Twins place first second hidden) (left.creation target) :=
    keeps_writingStep fun _ _ _ alike => alike.createFile
  have other : right.creation target = left.creation target := by
    rw [creation, creation, same]
  rcases created left right twins with ⟨values, worlds⟩
  rw [value_opening, value_opening, after_opening, after_opening, other, ← same, ← values]
  refine ⟨⟨rfl, ?_⟩, worlds⟩
  intro temporary made
  rcases Outcome.map_eq_ok_iff.mp made with ⟨_, _, rfl⟩
  refine ⟨_, left.temporaryName target, rfl, left.temporaryName_ne_dots target, ?_⟩
  rw [temporaryName, String.append_assoc, String.append_assoc, String.append_assoc]
  exact undotted _

theorem keeps_writeAtomically (undotted : forall rest, place.getLast? ≠ some ("." ++ rest))
    (target : Path) (text : String) :
    Keeps (Twins place first second hidden)
      (OutputFile.writeAtomically target text : Run (Except OsError Unit)) := by
  refine (keeps_ensureDirectory target.parent).bind fun made => ?_
  split
  · exact keeps_pure _
  · refine Paired.bind (paired_opening undotted target) ?_
    rintro opened _ ⟨rfl, apart⟩
    split
    · exact keeps_pure _
    · refine (keeps_fill (apart _ rfl) text).bind fun filled => ?_
      split
      · exact keeps_abandon _
      · exact keeps_install (apart _ rfl) target

theorem keeps_writeFile (undotted : forall rest, place.getLast? ≠ some ("." ++ rest))
    (path : Path) (text : String) :
    Keeps (Twins place first second hidden)
      (OutputFile.write path text : Run (Except OutputFile.WriteError Path)) := by
  refine (keeps_expandHome path).bind fun expanded => ?_
  split
  · exact keeps_pure _
  · refine (keeps_writeAtomically undotted _ text).bind fun written => ?_
    split <;> exact keeps_pure _

theorem keeps_writeBelow (undotted : forall rest, place.getLast? ≠ some ("." ++ rest))
    (root : Path) (files : List (String × String)) :
    Keeps (Twins place first second hidden)
      (OutputFile.writeBelow root files : Run (Except OutputFile.WriteError (List Path))) := by
  induction files with
  | nil => exact keeps_pure _
  | cons file rest ih =>
      rw [OutputFile.writeBelow]
      split
      · exact keeps_pure _
      · split
        · refine (keeps_writeFile undotted _ _).bind fun written => ?_
          split
          · exact keeps_pure _
          · exact ih.bind fun _ => keeps_pure _
        · exact keeps_pure _

theorem keeps_writeAll (undotted : forall rest, place.getLast? ≠ some ("." ++ rest))
    (directory : String) (files : List (String × String)) :
    Keeps (Twins place first second hidden)
      (OutputFile.writeAll directory files : Run (Except OutputFile.WriteError (List Path))) := by
  refine (keeps_expandHome _).bind fun expanded => ?_
  split
  · exact keeps_pure _
  · exact keeps_currentDirectory.bind fun current => keeps_writeBelow undotted _ _

end Keeping

/-! ## Until a file is written -/

/-- Two worlds in which nothing but messages and notes has come about, the same in both. -/
def Early (left right : World) (first second : World) : Prop :=
  Exists fun diagnostics => Exists fun notes =>
    first = left.reporting diagnostics notes ∧ second = right.reporting diagnostics notes

section Reporting

variable {left right : World} {related : α -> β -> Prop}

theorem paired_asks {run : Run α} {rerun : Run β} (asks : Asks run) (again : Asks rerun)
    (values : related (left.value run) (right.value rerun)) :
    Paired (Early left right) (Early left right) related run rerun := by
  rintro _ _ ⟨diagnostics, notes, rfl, rfl⟩
  rw [asks.deaf, again.deaf, asks.leaves, again.leaves]
  exact ⟨values, diagnostics, notes, rfl, rfl⟩

theorem keeps_said (text : String) :
    Keeps (Early left right) (Host.print .diagnostics text) := by
  rintro _ _ ⟨diagnostics, notes, rfl, rfl⟩
  exact ⟨rfl, diagnostics ++ text, notes, rfl, rfl⟩

theorem keeps_log (note : String) : Keeps (Early left right) (Host.log note) := by
  rintro _ _ ⟨diagnostics, notes, rfl, rfl⟩
  exact ⟨rfl, diagnostics, notes ++ [note], rfl, rfl⟩

theorem Twins.early {place : Place} {first second : List UInt8} {hidden : List String}
    (twins : Twins place first second hidden left right) {one other : World}
    (early : Early left right one other) : Twins place first second hidden one other := by
  rcases early with ⟨diagnostics, notes, rfl, rfl⟩
  refine ⟨?_, twins.files, twins.environment⟩
  rw [twins.rest]
  rfl

end Reporting
end World
end RouteIR
