import RouteIR.Proofs.Command.Translation
import RouteIR.Proofs.Config

namespace RouteIR

/-!
# Commands with overridden values

A command is run in two worlds that differ in overridden values only.  On the way to the document
it asks for its configuration and says what it does, the same in both worlds.  After that it
writes, which nothing that is overridden can change.
-/

namespace CommandLine

/-- The values that a command is given for its configuration. -/
def Command.arguments : Command -> ConfigArguments
  | .translate source output => ⟨source, none, output⟩
  | .inspectComponents source | .inspectRoutes source | .inspectDecoders source =>
      ⟨source, none, none⟩
  | .render arguments => ⟨arguments.source, arguments.package, none⟩

end CommandLine

namespace Command

open World

variable {α β ε : Type}

/-! ## Messages in two worlds -/

section Speaking

variable {kept : World -> World -> Prop} {related : α -> β -> Prop}

/-- A relation that is kept by all that a diagnostic takes. -/
structure Permits (kept : World -> World -> Prop) : Prop where
  print : forall text, Keeps kept (Host.print .diagnostics text)
  read : forall markup, Keeps kept (Host.readMarkup markup)

/-- The same run ends the same way, or goes on with the same value. -/
theorem paired_of_keeps {run : Action Run α} (keeps : Keeps kept run.run) :
    Paired kept kept (Outcome.Coincide Eq) run.run run.run :=
  fun left right worlds =>
    ⟨.of_eq (keeps left right worlds).1, (keeps left right worlds).2⟩

theorem paired_lift_bind {before middle after : World -> World -> Prop} {γ δ : Type}
    {further : γ -> δ -> Prop} {effect : Run α} {other : Run β} {next : α -> Action Run γ}
    {follow : β -> Action Run δ} (first : Paired before middle related effect other)
    (rest : forall one other, related one other ->
      Paired middle after (Outcome.Coincide further) (next one).run (follow other).run) :
    Paired before after (Outcome.Coincide further) (lift effect >>= next).run
      (lift other >>= follow).run :=
  first.bind rest

theorem keeps_diagnose (permits : Permits kept) (diagnostic : Diagnostic) :
    Keeps kept (diagnose diagnostic : Action Run Unit).run := by
  cases diagnostic with
  | nothing => exact keeps_pure _
  | literal text => exact (permits.print _).bind fun _ => keeps_pure _
  | marked markup =>
      refine keeps_stoppable_bind ((permits.read markup).bind fun _ => keeps_pure _) fun shown => ?_
      cases shown with
      | some text => exact (permits.print _).bind fun _ => keeps_pure _
      | none => exact keeps_pure _

/-- What is said comes first in both worlds. -/
theorem paired_diagnose_bind (permits : Permits kept) (diagnostic : Diagnostic)
    {next : Unit -> Action Run α} {follow : Unit -> Action Run β}
    (rest : Paired kept kept (Outcome.Coincide related) (next ()).run (follow ()).run) :
    Paired kept kept (Outcome.Coincide related) (diagnose diagnostic >>= next).run
      (diagnose diagnostic >>= follow).run :=
  (paired_of_keeps (keeps_diagnose permits diagnostic)).stoppable_bind (fun _ _ same => same)
    fun _ _ _ => rest

theorem paired_stopWith (permits : Permits kept) (output : Output) (problem : Problem) :
    Paired kept kept (Outcome.Coincide related) (stopWith output problem : Action Run α).run
      (stopWith output problem : Action Run β).run := by
  rw [stopWith, stopWith]
  split
  · exact paired_diagnose_bind permits _ (paired_pure (.error _))
  · exact paired_pure (.error _)

theorem paired_require (permits : Permits kept) (output : Output) (problem : ε -> Problem)
    {one : Except ε α} {other : Except ε β} (coincide : Outcome.Coincide related one other) :
    Paired kept kept (Outcome.Coincide related) (require output problem one : Action Run α).run
      (require output problem other : Action Run β).run := by
  cases coincide with
  | ok values => exact paired_pure (.ok values)
  | error failure => exact paired_stopWith permits output _

end Speaking

/-! ## Commands with overridden values -/

section Overriding

variable {arguments : ConfigArguments} {left right : World} {place : Place}
  {first second : List UInt8}

theorem permits_early (overridden : Overridden arguments left right) :
    Permits (Early left right) := by
  refine ⟨keeps_said, fun markup => ?_⟩
  refine paired_asks (asks_readMarkup markup) (asks_readMarkup markup) ?_
  rw [overridden.rest]
  rfl

theorem permits_twins : Permits (Twins place first second fieldVariables) :=
  ⟨keeps_print _, keeps_readMarkup⟩

theorem keeps_announce (overridden : Overridden arguments left right) (output : Output)
    (event : Trace.Event Failure) :
    Keeps (Early left right) (announce output event : Run (Except String Unit)) := by
  have elapsed : Keeps (Early left right) Host.elapsed := by
    refine paired_asks asks_elapsed asks_elapsed ?_
    rw [overridden.rest]
    rfl
  refine elapsed.bind fun _ => ?_
  refine Keeps.bind (keeps_diagnose (permits_early overridden) _) fun outcome => ?_
  cases outcome <;> exact keeps_pure _

theorem keeps_printingTracer (overridden : Overridden arguments left right) (output : Output)
    (event : Trace.Event Failure) :
    Keeps (Early left right) (printingTracer output event : Run (Except String Unit)) := by
  have started : Keeps (Early left right) Host.startTimer :=
    paired_asks asks_startTimer asks_startTimer rfl
  rw [printingTracer]
  split
  · exact started.bind fun _ => keeps_announce overridden output event
  · exact keeps_announce overridden output event

/-- The interface of a document does not depend on what is overridden. -/
theorem paired_loadInterface (overridden : Overridden arguments left right)
    (harmless : Harmless arguments left right) (output : Output) :
    Paired (Early left right) (Early left right) (Outcome.Coincide Eq)
      (loadInterface output arguments.source : Action Run Interface).run
      (loadInterface output arguments.source : Action Run Interface).run := by
  refine paired_lift_bind (paired_asks (asks_resolve _) (asks_resolve _)
    (harmless.resolve overridden).known) fun configured other coincide => ?_
  have permits := permits_early overridden
  refine (paired_require permits output _ coincide).stoppable_bind (fun _ _ early => early) ?_
  rintro config other ⟨same, configured⟩
  rw [← same]
  split
  · exact paired_diagnose_bind permits _ (paired_pure (.error _))
  · rename_i source named
    refine paired_diagnose_bind permits _ ?_
    have loaded := overridden.load (harmless.apart config source configured named)
    refine paired_lift_bind (paired_asks (asks_load source) (asks_load source)
      (Outcome.Coincide.of_eq loaded)) fun _ _ coincide => ?_
    refine (paired_require permits output _ coincide).stoppable_bind (fun _ _ early => early) ?_
    rintro tree _ rfl
    refine paired_lift_bind (keeps_traced ?_ tree) ?_
    · intro tracer listed event
      split at listed
      · rw [List.mem_singleton.mp listed]
        exact keeps_printingTracer overridden output event
      · exact absurd listed List.not_mem_nil
    · rintro traced _ rfl
      exact paired_require permits output _ (.of_eq rfl)

/-! ## After the document -/

section Writing

variable {kept : World -> World -> Prop}

theorem keeps_showTable (permits : Permits kept)
    (prints : forall text, Keeps kept (Host.print .output text)) (output : Output) (table : Table)
    (absence : String) : Keeps kept (showTable output table absence : Action Run Unit).run := by
  rw [showTable]
  split
  · exact keeps_diagnose permits _
  · exact (prints _).bind fun _ => keeps_pure _

end Writing

/-- A message or a note can come before what only keeps worlds apart that differ in one file. -/
theorem paired_of_twins (twins : Twins place first second fieldVariables left right)
    {related : α -> β -> Prop} {run : Run α} {rerun : Run β}
    (paired : Paired (Twins place first second fieldVariables)
      (Twins place first second fieldVariables) related run rerun) :
    Paired (Early left right) (Twins place first second fieldVariables) related run rerun :=
  fun one other early => paired one other (twins.early early)

section Whole

variable (twins : Twins place first second fieldVariables left right)
  (undotted : forall rest, place.getLast? ≠ some ("." ++ rest))

include twins

theorem paired_inspect (view : View) (overridden : Overridden arguments left right)
    (harmless : Harmless arguments left right) (output : Output) :
    Paired (Early left right) (Twins place first second fieldVariables) (Outcome.Coincide Eq)
      (inspect output view arguments.source : Action Run Unit).run
      (inspect output view arguments.source : Action Run Unit).run := by
  refine (paired_loadInterface overridden harmless output).stoppable_bind
    (fun _ _ => twins.early) ?_
  rintro interface _ rfl
  refine paired_of_twins twins ?_
  split
  · exact paired_of_keeps (keeps_showTable permits_twins (keeps_print _) output _ _)
  · exact paired_pure (.error _)

include undotted

theorem paired_translate {source target : Option String}
    (overridden : Overridden ⟨source, none, target⟩ left right)
    (harmless : Harmless ⟨source, none, target⟩ left right) (output : Output) :
    Paired (Early left right) (Twins place first second fieldVariables) (Outcome.Coincide Eq)
      (translate output source target : Action Run Unit).run
      (translate output source target : Action Run Unit).run := by
  have permits := permits_early overridden
  refine (paired_loadInterface overridden harmless output).stoppable_bind
    (fun _ _ => twins.early) ?_
  rintro interface _ rfl
  have written : Keeps (Early left right) (textOf interface : Action Run String).run := by
    rw [textOf]
    split <;> exact keeps_pure _
  refine (paired_of_keeps written).stoppable_bind (fun _ _ => twins.early) ?_
  rintro text _ rfl
  refine paired_lift_bind (paired_asks (asks_resolve _) (asks_resolve _)
    (Outcome.Coincide.of_eq overridden.resolve)) fun _ _ coincide => ?_
  refine (paired_require permits output _ coincide).stoppable_bind (fun _ _ => twins.early) ?_
  rintro config _ rfl
  refine paired_of_twins twins ?_
  split
  · exact paired_of_keeps ((keeps_print _ _).bind fun _ => keeps_pure _)
  · refine paired_lift_bind (keeps_writeFile undotted _ _) ?_
    rintro written _ rfl
    refine (paired_require permits_twins output _ (.of_eq rfl)).stoppable_bind
      (fun _ _ same => same) ?_
    rintro path _ rfl
    exact paired_of_keeps (keeps_diagnose permits_twins _)

theorem paired_render (entries : List RendererEntry) (asked : CommandLine.RenderArguments)
    (overridden : Overridden ⟨asked.source, asked.package, none⟩ left right)
    (harmless : Harmless ⟨asked.source, asked.package, none⟩ left right) (output : Output) :
    Paired (Early left right) (Twins place first second fieldVariables) (Outcome.Coincide Eq)
      (render output entries asked : Action Run Unit).run
      (render output entries asked : Action Run Unit).run := by
  have permits := permits_early overridden
  refine paired_lift_bind (keeps_forM keeps_log _) fun _ _ _ => ?_
  split
  · exact paired_of_twins twins
      (paired_of_keeps (keeps_showTable permits_twins (keeps_print _) output _ _))
  · split
    · exact paired_of_twins twins (paired_diagnose_bind permits_twins _ (paired_pure (.error _)))
    · refine (paired_require permits output _ (.of_eq rfl)).stoppable_bind
        (fun _ _ => twins.early) ?_
      rintro renderer _ rfl
      refine paired_lift_bind (paired_asks (asks_resolve _) (asks_resolve _)
        (Outcome.Coincide.of_eq overridden.resolve)) fun _ _ coincide => ?_
      refine (paired_require permits output _ coincide).stoppable_bind (fun _ _ => twins.early) ?_
      rintro config _ rfl
      refine (paired_loadInterface overridden harmless output).stoppable_bind
        (fun _ _ => twins.early) ?_
      rintro interface _ rfl
      refine (paired_require permits output _ (.of_eq rfl)).stoppable_bind
        (fun _ _ => twins.early) ?_
      rintro files _ rfl
      refine paired_of_twins twins (paired_lift_bind (keeps_writeAll undotted _ _) ?_)
      rintro written _ rfl
      refine (paired_require permits_twins output _ (.of_eq rfl)).stoppable_bind
        (fun _ _ same => same) ?_
      rintro paths _ rfl
      exact paired_of_keeps (keeps_diagnose permits_twins _)

theorem paired_run (entries : List RendererEntry) (command : CommandLine.Command)
    (overridden : Overridden command.arguments left right)
    (harmless : Harmless command.arguments left right) (output : Output) :
    Paired (Early left right) (Twins place first second fieldVariables) (Outcome.Coincide Eq)
      (run output entries command : Action Run Unit).run
      (run output entries command : Action Run Unit).run := by
  cases command with
  | translate source target => exact paired_translate twins undotted overridden harmless output
  | inspectComponents source => exact paired_inspect twins _ overridden harmless output
  | inspectRoutes source => exact paired_inspect twins _ overridden harmless output
  | inspectDecoders source => exact paired_inspect twins _ overridden harmless output
  | render asked => exact paired_render twins undotted entries asked overridden harmless output

end Whole

theorem keeps_reportCrash (problem : Problem) :
    Keeps (Twins place first second fieldVariables) (reportCrash problem : Run Path) := by
  have ensured : Keeps (Twins place first second fieldVariables)
      (DataDirectory.ensure : Run (Except OsError Path)) := by
    refine keeps_system.bind fun _ => keeps_homeDirectory.bind fun _ => ?_
    refine (keeps_environment (by decide)).bind fun _ => ?_
    refine (keeps_ensureDirectory _).bind fun made => ?_
    split <;> exact keeps_pure _
  have report (directory : Path) : Keeps (Twins place first second fieldVariables) (do
      let logs := directory.child "logs"
      discard (OutputFile.ensureDirectory logs)
      let path := logs.child ("crash-" ++ (← Host.timestamp) ++ ".log")
      discard (Host.save path (Output.line (reprStr problem)))
      return path : Run Path) :=
    (keeps_ensureDirectory _).discard.bind fun _ => keeps_timestamp.bind fun _ =>
      (keeps_save _ _).discard.bind fun _ => keeps_pure _
  refine ensured.bind fun outcome => ?_
  split
  · exact report _
  · exact keeps_homeDirectory.bind report

theorem keeps_conclude (output : Output) (ending : Except Stop Unit) :
    Keeps (Twins place first second fieldVariables) (conclude output ending : Run Nat) := by
  rw [conclude.eq_def]
  split
  · exact keeps_pure _
  · exact keeps_pure _
  · exact (keeps_reportCrash _).bind fun _ =>
      Keeps.bind (keeps_diagnose permits_twins _).discard fun _ => keeps_pure _

/-- Nothing but overridden values tells two worlds apart, so output looks the same in both. -/
theorem value_outputFor (overridden : Overridden arguments left right)
    (flags : CommandLine.Flags) :
    left.value (outputFor flags) = right.value (outputFor flags) := by
  refine (asks_environment _).agree (overridden.variable_eq (by decide)) fun _ => ?_
  refine (asks_environment _).agree (overridden.variable_eq (by decide)) fun _ => ?_
  refine asks_isTerminal.agree ?_ fun _ => rfl
  rw [overridden.rest]
  rfl

end Overriding

/-- Two invocations that cannot be told apart by what they leave: the exit code, all that is
said, and every file that is not as it was before. -/
structure Indistinct (left right : World) (code otherCode : Nat) (after otherAfter : World) :
    Prop where
  code : code = otherCode
  output : after.output = otherAfter.output
  diagnostics : after.diagnostics = otherAfter.diagnostics
  notes : after.notes = otherAfter.notes
  files : forall place, after.files.entry? place = otherAfter.files.entry? place ∨
    after.files.entry? place = left.files.entry? place ∧
      otherAfter.files.entry? place = right.files.entry? place

/-- A value that is overridden has no effect, for each command, where it is harmless on the way to
the document. -/
theorem main_of_overridden (entries : List RendererEntry) {args : List String}
    {flags : CommandLine.Flags} {command : CommandLine.Command}
    (asked : CommandLine.read args = .run flags command) {left right : World}
    (overridden : Overridden command.arguments left right)
    (harmless : Harmless command.arguments left right) :
    Indistinct left right (left.value (main entries args)) (right.value (main entries args))
      (left.after (main entries args)) (right.after (main entries args)) := by
  rcases overridden.alike with ⟨place, first, second, alike, undotted, contents⟩
  have twins := overridden.twins alike
  have early : Early left right left right := by
    refine ⟨left.diagnostics, left.notes, rfl, ?_⟩
    rw [overridden.rest]
    rfl
  have whole : Paired (Early left right) (Twins place first second fieldVariables) Eq
      (main entries args) (main entries args) := by
    have looks : Paired (Early left right) (Early left right) Eq (outputFor flags)
        (outputFor flags) :=
      paired_asks (asks_outputFor flags) (asks_outputFor flags)
        (value_outputFor overridden flags)
    simp only [main, asked]
    refine looks.bind ?_
    rintro output _ rfl
    refine (paired_run twins undotted entries command overridden harmless output).bind ?_
    intro ending other coincide
    rw [coincide.eq]
    exact keeps_conclude output other
  rcases whole left right early with ⟨values, worlds⟩
  have rest := worlds.rest
  refine ⟨values, ?_, ?_, ?_, fun reached => ?_⟩
  · rw [rest]
  · rw [rest]
  · rw [rest]
  · by_cases here : reached = place
    · rcases worlds.files.here with same | ⟨one, other⟩
      · exact .inl (here ▸ same)
      · rcases contents with rfl | ⟨original, otherOriginal⟩
        · exact .inl (by rw [here, one, other])
        · exact .inr (by rw [here, one, other, original, otherOriginal]; exact ⟨rfl, rfl⟩)
    · exact .inl (worlds.files.elsewhere reached here)

/-- A project file that has a value for the output. -/
def outputProject (value : String) : List UInt8 :=
  ("\x7b\"output\": " ++ value ++ "\x7d").toUTF8.toList

/-- A world with a document, and a project file that has a value for the output. -/
def outputWorld (value : String) : World :=
  { documentWorld with
    files := documentWorld.files.putAt ["w", "specir.json"] (.file (outputProject value)) }

/-- Whether a project file has a value for the output only. -/
def isOutputOnly (members : List (String × Json)) : Bool :=
  (members.lookup "source").isNone && (members.lookup "package").isNone

theorem rewritten_of_outputOnly {world : World} {arguments : ConfigArguments}
    {first second : List UInt8} (given : arguments.output.isSome = true)
    (firstOnly : (Config.readProject world.projectPath first).toOption.map isOutputOnly =
      some true)
    (secondOnly : (Config.readProject world.projectPath second).toOption.map isOutputOnly =
      some true) :
    world.Rewritten arguments first second := by
  cases read : Config.readProject world.projectPath first with
  | error error =>
      rw [read] at firstOnly
      cases firstOnly
  | ok before =>
      cases reread : Config.readProject world.projectPath second with
      | error error =>
          rw [reread] at secondOnly
          cases secondOnly
      | ok after =>
          have only := Outcome.part_eq_of_computed read isOutputOnly firstOnly
          have alsoOnly := Outcome.part_eq_of_computed reread isOutputOnly secondOnly
          simp only [isOutputOnly, Bool.and_eq_true, Option.isNone_iff_eq_none] at only alsoOnly
          refine ⟨before, after, read, reread, fun field => ?_⟩
          cases field with
          | source => exact .inl (only.1.trans alsoOnly.1.symm)
          | package => exact .inl (only.2.trans alsoOnly.2.symm)
          | output => exact .inr (.inl given)

theorem overridden_outputWorld {arguments : ConfigArguments} {first second : String}
    (rewritten : (outputWorld first).Rewritten arguments (outputProject first)
      (outputProject second)) :
    Overridden arguments (outputWorld first) (outputWorld second) := by
  have located : (outputWorld first).files.locate (outputWorld first).current
      (outputWorld first).projectPath = .ok ["w", "specir.json"] := rfl
  refine ⟨rfl, fun _ => .inl rfl, fun place apart => ?_, fun place here => .inr ?_⟩
  · have elsewhere : place ≠ ["w", "specir.json"] := fun same => apart (same ▸ located)
    exact (FileSystem.entry?_putAt_of_ne elsewhere).trans
      (FileSystem.entry?_putAt_of_ne elsewhere).symm
  · cases here.symm.trans located
    exact ⟨_, _, FileSystem.entry?_putAt_self (by decide),
      FileSystem.entry?_putAt_self (by decide), rewritten⟩

/-- A translation to a file, whatever output the project file has. -/
def toFile : CommandLine.Command := .translate (some "d.json") (some "o.json")

/-- The output that the project file has is overridden, but stops the command where it is no
text. -/
theorem overridden_output_stops :
    Overridden toFile.arguments (outputWorld "5") (outputWorld "\"x\"") ∧
      (outputWorld "5").value (main [] ["translate", "d.json", "-o", "o.json"]) = 1 ∧
      (outputWorld "\"x\"").value (main [] ["translate", "d.json", "-o", "o.json"]) = 0 := by
  refine ⟨overridden_outputWorld (rewritten_of_outputOnly rfl ?_ ?_), ?_, ?_⟩
  · decide +kernel
  · decide +kernel
  · decide +kernel
  · decide +kernel

theorem main_of_overridden_output :
    Indistinct (outputWorld "\"x\"") (outputWorld "\"y\"") 0 0
      ((outputWorld "\"x\"").after (main [] ["translate", "d.json", "-o", "o.json"]))
      ((outputWorld "\"y\"").after (main [] ["translate", "d.json", "-o", "o.json"])) := by
  have asked : CommandLine.read ["translate", "d.json", "-o", "o.json"] =
      .run ⟨false, false, false, false, false⟩ toFile := by
    decide +kernel
  have overridden :
      Overridden toFile.arguments (outputWorld "\"x\"") (outputWorld "\"y\"") := by
    refine overridden_outputWorld (rewritten_of_outputOnly rfl ?_ ?_)
    · decide +kernel
    · decide +kernel
  have harmless : Harmless toFile.arguments (outputWorld "\"x\"") (outputWorld "\"y\"") := by
    refine ⟨fun before after read reread field given => ?_, fun config source configured named => ?_⟩
    · cases field with
      | source => exact .inl rfl
      | package => exact absurd given (by decide)
      | output =>
          refine .inr ⟨Outcome.exists_of_isOk ?_, Outcome.exists_of_isOk ?_⟩
          · exact Outcome.part_eq_of_computed read (fun members => (Config.checkText .output
              ((outputWorld "\"x\"").chosen (sourceOnly toFile.arguments) members .output)).isOk)
              (by decide +kernel)
          · exact Outcome.part_eq_of_computed reread (fun members => (Config.checkText .output
              ((outputWorld "\"y\"").chosen (sourceOnly toFile.arguments) members .output)).isOk)
              (by decide +kernel)
    · have document : config.source = some "d.json" :=
        Outcome.part_eq_of_computed configured (·.source) (by decide +kernel)
      cases named.symm.trans document
      intro place located project
      exact absurd (congrArg Except.toOption (located.trans project.symm)) (by decide +kernel)
  have result := main_of_overridden [] asked overridden harmless
  have code : (outputWorld "\"x\"").value
      (main [] ["translate", "d.json", "-o", "o.json"]) = 0 := by decide +kernel
  rwa [← result.code, code] at result

end Command
end RouteIR
