import RouteIR.Command
import RouteIR.Proofs.Json.RoundTrip
import RouteIR.Proofs.OutputFile.Atomicity

namespace RouteIR

/-!
# What a translation leaves behind

A translation loads an interface and prints its text, or writes the text to a file where one is
configured.  The output stream gets the text or nothing, and nothing where a file gets it.  A
problem that was foreseen ends the command with the exit code of its kind, before any file but a
temporary one has changed.
-/

namespace Command

open World

/-! ## Diagnostics -/

variable {α ε : Type}

/-- A diagnostic that is shown: one without marks, or with marks that the console can read. -/
def Readable (world : World) : Diagnostic -> Prop
  | .nothing | .literal _ => True
  | .marked markup => (world.markup markup).isSome = true

instance (world : World) : DecidablePred (Readable world)
  | .nothing | .literal _ => inferInstanceAs (Decidable True)
  | .marked markup => inferInstanceAs (Decidable ((world.markup markup).isSome = true))

theorem readable_iff_of_markup {world other : World} (same : other.markup = world.markup)
    (diagnostic : Diagnostic) : Readable other diagnostic ↔ Readable world diagnostic := by
  cases diagnostic with
  | nothing | literal text => exact Iff.rfl
  | marked markup => rw [Readable, Readable, same]

/-- Without colours every message is shown. -/
theorem readable_say {output : Output} (colourless : output.colourless = true) (world : World)
    (literal marked : String) : Readable world (output.say literal marked) := by
  rw [Output.say, if_pos colourless]
  trivial

theorem value_lift (effect : Run α) (world : World) :
    world.value (lift effect : Action Run α).run = .ok (world.value effect) := rfl

theorem after_lift (effect : Run α) (world : World) :
    world.after (lift effect : Action Run α).run = world.after effect := rfl

theorem speaks_lift {effect : Run α} (speaks : Speaks effect) :
    Speaks (lift effect : Action Run α).run := speaks

theorem speaks_diagnose (diagnostic : Diagnostic) :
    Speaks (diagnose diagnostic : Action Run Unit).run := by
  cases diagnostic with
  | nothing => exact speaks_pure _
  | literal text => exact speaks_lift (speaks_print _)
  | marked markup =>
      refine (speaks_lift (asks_readMarkup markup).speaks).stoppable_bind fun shown => ?_
      cases shown with
      | some text => exact speaks_lift (speaks_print _)
      | none => exact speaks_pure _

theorem value_diagnose_of_readable {world : World} {diagnostic : Diagnostic}
    (readable : Readable world diagnostic) :
    world.value (diagnose diagnostic : Action Run Unit).run = .ok () := by
  cases diagnostic with
  | nothing | literal text => rfl
  | marked markup =>
      rcases Option.isSome_iff_exists.mp readable with ⟨text, shown⟩
      have asked : world.value (Host.readMarkup markup) = some text := shown
      rw [diagnose, value_stoppable_bind, value_lift, asked]
      rfl

theorem value_diagnose_of_not_readable {world : World} {diagnostic : Diagnostic}
    (unreadable : ¬ Readable world diagnostic) :
    Exists fun markup => world.value (diagnose diagnostic : Action Run Unit).run =
      .error (.crash (.markup markup)) := by
  cases diagnostic with
  | nothing | literal text => exact absurd trivial unreadable
  | marked markup =>
      have asked : world.value (Host.readMarkup markup) = none :=
        Option.not_isSome_iff_eq_none.mp unreadable
      refine ⟨markup, ?_⟩
      rw [diagnose, value_stoppable_bind, value_lift, asked]
      rfl

/-! ## Stopping -/

/-- How a problem stops a command: with the exit code of the problem once its message is shown,
and else with a crash. -/
inductive StopEnds (world : World) (output : Output) (problem : Problem) : Stop -> Prop
  | exit {message : String} (foreseen : problem.message? = some message)
      (readable : Readable world (output.error message)) :
      StopEnds world output problem (.exit problem.exitCode)
  | garbled {message markup : String} (foreseen : problem.message? = some message)
      (unreadable : ¬ Readable world (output.error message)) :
      StopEnds world output problem (.crash (.markup markup))
  | crash (unforeseen : problem.message? = none) :
      StopEnds world output problem (.crash problem)

theorem StopEnds.of_markup {world other : World} {output : Output} {problem : Problem} {stop : Stop}
    (same : other.markup = world.markup) (stops : StopEnds other output problem stop) :
    StopEnds world output problem stop := by
  cases stops with
  | exit foreseen readable => exact .exit foreseen ((readable_iff_of_markup same _).mp readable)
  | garbled foreseen unreadable =>
      exact .garbled foreseen (mt (readable_iff_of_markup same _).mpr unreadable)
  | crash unforeseen => exact .crash unforeseen

theorem speaks_stopWith (output : Output) (problem : Problem) :
    Speaks (stopWith output problem : Action Run α).run := by
  rw [stopWith]
  split
  · exact (speaks_diagnose _).stoppable_bind fun _ => speaks_pure _
  · exact speaks_pure _

theorem stopWith_ends (output : Output) (problem : Problem) (world : World) :
    Exists fun stop => world.value (stopWith output problem : Action Run α).run = .error stop ∧
      StopEnds world output problem stop := by
  rw [stopWith]
  cases foreseen : problem.message? with
  | none => exact ⟨_, rfl, .crash foreseen⟩
  | some message =>
      simp only [value_stoppable_bind]
      by_cases readable : Readable world (output.error message)
      · rw [value_diagnose_of_readable readable]
        exact ⟨_, rfl, .exit foreseen readable⟩
      · rcases value_diagnose_of_not_readable readable with ⟨markup, refused⟩
        rw [refused]
        exact ⟨_, rfl, .garbled foreseen readable⟩

theorem speaks_require (output : Output) (problem : ε -> Problem) (outcome : Except ε α) :
    Speaks (require output problem outcome : Action Run α).run := by
  cases outcome with
  | ok value => exact speaks_pure _
  | error error => exact speaks_stopWith _ _

theorem value_require_ok (output : Output) (problem : ε -> Problem) (result : α) (world : World) :
    world.value (require output problem (.ok result) : Action Run α).run = .ok result := rfl

theorem after_require_ok (output : Output) (problem : ε -> Problem) (result : α) (world : World) :
    world.after (require output problem (.ok result) : Action Run α).run = world := rfl

theorem require_error_ends (output : Output) (problem : ε -> Problem) (error : ε)
    (world : World) :
    Exists fun stop =>
      world.value (require output problem (.error error) : Action Run α).run = .error stop ∧
        StopEnds world output (problem error) stop :=
  stopWith_ends output (problem error) world

/-! ## Loading -/

/-- A problem of loading the document that a configuration names. -/
inductive LoadMeets (world : World) (source : Option String) : Problem -> Prop
  | config {error : ConfigError}
      (failed : world.value (Config.resolve ⟨source, none, none⟩) = .error error) :
      LoadMeets world source (.config error)
  | load {config : Config} {text : String} {error : Source.LoadError}
      (configured : world.value (Config.resolve ⟨source, none, none⟩) = .ok config)
      (named : config.source = some text)
      (failed : world.value (Source.load text) = .error error) :
      LoadMeets world source (.load error)
  | document {config : Config} {text : String} {tree : Tree} {failure : Failure}
      (configured : world.value (Config.resolve ⟨source, none, none⟩) = .ok config)
      (named : config.source = some text)
      (loaded : world.value (Source.load text) = .ok tree)
      (failed : Interface.ofTree tree = .error failure) :
      LoadMeets world source (.document failure)

/-- The interface of the document that a configuration names. -/
structure Describes (world : World) (source : Option String) (interface : Interface) : Prop where
  loaded : Exists fun config => Exists fun text => Exists fun tree =>
    world.value (Config.resolve ⟨source, none, none⟩) = .ok config ∧ config.source = some text ∧
    world.value (Source.load text) = .ok tree ∧ Interface.ofTree tree = .ok interface

/-- No document is named. -/
def Unnamed (world : World) (source : Option String) : Prop :=
  Exists fun config => world.value (Config.resolve ⟨source, none, none⟩) = .ok config ∧
    config.source = none

/-- A document has one interface. -/
theorem Describes.unique {world : World} {source : Option String} {interface other : Interface}
    (describes : Describes world source interface) (again : Describes world source other) :
    interface = other := by
  rcases describes.loaded with ⟨config, text, tree, configured, named, loaded, made⟩
  rcases again.loaded with ⟨_, _, _, configured', named', loaded', made'⟩
  cases configured.symm.trans configured'
  cases named.symm.trans named'
  cases loaded.symm.trans loaded'
  exact Except.ok.inj (made.symm.trans made')

/-- What loading a document says before it meets a problem. -/
inductive LoadTells (world : World) (output : Output) (source : Option String) : Diagnostic -> Prop
  | start {config : Config} {text : String}
      (configured : world.value (Config.resolve ⟨source, none, none⟩) = .ok config)
      (named : config.source = some text) :
      LoadTells world output source (output.debug ("Translating " ++ text))
  | unnamed (unnamed : Unnamed world source) :
      LoadTells world output source (output.error unnamedText)

theorem LoadTells.readable_of_colourless {world : World} {output : Output}
    {source : Option String} {diagnostic : Diagnostic}
    (tells : LoadTells world output source diagnostic) (colourless : output.colourless = true) :
    Readable world diagnostic := by
  cases tells with
  | start _ _ =>
      rw [Output.debug]
      split
      · exact readable_say colourless world _ _
      · trivial
  | unnamed _ => exact readable_say colourless world _ _

/-- How loading ends. -/
inductive LoadEnds (world : World) (output : Output) (source : Option String) :
    Except Stop Interface -> Prop
  | described {interface : Interface} (describes : Describes world source interface)
      (readable : forall diagnostic, LoadTells world output source diagnostic ->
        Readable world diagnostic) :
      LoadEnds world output source (.ok interface)
  | unnamed (unnamed : Unnamed world source)
      (readable : Readable world (output.error unnamedText)) :
      LoadEnds world output source (.error (.exit ExitCode.misuse))
  | stopped {problem : Problem} {stop : Stop} (met : LoadMeets world source problem)
      (stops : StopEnds world output problem stop) :
      LoadEnds world output source (.error stop)
  | garbled {diagnostic : Diagnostic} {markup : String}
      (tells : LoadTells world output source diagnostic)
      (unreadable : ¬ Readable world diagnostic) :
      LoadEnds world output source (.error (.crash (.markup markup)))

theorem speaks_announce (output : Output) (event : Trace.Event Failure) :
    Speaks (announce output event : Run (Except String Unit)) := by
  refine asks_elapsed.speaks.bind fun _ => (speaks_diagnose _).bind fun outcome => ?_
  cases outcome <;> exact speaks_pure _

theorem speaks_printingTracer (output : Output) (event : Trace.Event Failure) :
    Speaks (printingTracer output event : Run (Except String Unit)) := by
  rw [printingTracer]
  split
  · exact asks_startTimer.speaks.bind fun _ => speaks_announce output event
  · exact speaks_announce output event

theorem speaks_verboseTraced (output : Output) (tree : Tree) :
    Speaks (Interface.traced (if output.verbose then [printingTracer output] else []) tree :
      ExceptT Failure Run Interface).run := by
  refine speaks_traced (fun tracer member => ?_) tree
  split at member
  · rw [List.mem_singleton.mp member]
    exact speaks_printingTracer output
  · cases member

theorem speaks_loadInterface (output : Output) (source : Option String) :
    Speaks (loadInterface output source : Action Run Interface).run := by
  refine (speaks_lift (asks_resolve _).speaks).stoppable_bind fun _ => ?_
  refine (speaks_require _ _ _).stoppable_bind fun config => ?_
  split
  · exact (speaks_diagnose _).stoppable_bind fun _ => speaks_pure _
  · refine (speaks_diagnose _).stoppable_bind fun _ => ?_
    refine (speaks_lift (asks_load _).speaks).stoppable_bind fun _ => ?_
    refine (speaks_require _ _ _).stoppable_bind fun tree => ?_
    exact (speaks_lift (speaks_verboseTraced output tree)).stoppable_bind fun _ =>
      speaks_require _ _ _

/-- Loading says one thing at most before it meets a problem. -/
theorem LoadTells.unique {world : World} {output : Output} {source : Option String}
    {diagnostic other : Diagnostic} (tells : LoadTells world output source diagnostic)
    (again : LoadTells world output source other) : diagnostic = other := by
  cases tells with
  | start configured named =>
      cases again with
      | start configured' named' =>
          cases configured.symm.trans configured'
          cases named.symm.trans named'
          rfl
      | unnamed unnamed =>
          rcases unnamed with ⟨_, configured', unnamed⟩
          cases configured.symm.trans configured'
          cases named.symm.trans unnamed
  | unnamed unnamed =>
      cases again with
      | start configured named =>
          rcases unnamed with ⟨_, configured', unnamed⟩
          cases configured.symm.trans configured'
          cases named.symm.trans unnamed
      | unnamed _ => rfl

theorem loadInterface_ends (output : Output) (source : Option String) (world : World) :
    LoadEnds world output source (world.value (loadInterface output source).run) := by
  simp only [loadInterface, value_stoppable_bind, value_lift, after_lift, (asks_resolve _).leaves]
  cases configured : world.value (Config.resolve ⟨source, none, none⟩) with
  | error error =>
      rcases require_error_ends output .config error world with ⟨stop, value, stops⟩
      rw [value]
      exact .stopped (.config configured) stops
  | ok config =>
      simp only [value_require_ok, after_require_ok]
      cases named : config.source with
      | none =>
          have unnamed : Unnamed world source := ⟨config, configured, named⟩
          simp only [value_stoppable_bind]
          by_cases readable : Readable world (output.error unnamedText)
          · rw [value_diagnose_of_readable readable]
            exact .unnamed unnamed readable
          · rcases value_diagnose_of_not_readable readable with ⟨markup, refused⟩
            rw [refused]
            exact .garbled (.unnamed unnamed) readable
      | some text =>
          have tells : LoadTells world output source (output.debug ("Translating " ++ text)) :=
            .start configured named
          have announces : Speaks (diagnose (output.debug ("Translating " ++ text)) :
              Action Run Unit).run := speaks_diagnose _
          simp only [value_stoppable_bind]
          by_cases readable : Readable world (output.debug ("Translating " ++ text))
          · rcases announces world with ⟨said, told⟩
            rw [value_diagnose_of_readable readable, told]
            simp only [value_lift, after_lift, (asks_load _).leaves, (asks_load _).said]
            cases loaded : world.value (Source.load text) with
            | error error =>
                rcases require_error_ends output .load error (world.said said) with
                  ⟨stop, value, stops⟩
                rw [value]
                exact .stopped (.load configured named loaded) (stops.of_markup (said_markup said))
            | ok tree =>
                have traced := (speaks_verboseTraced output tree).markup (world.said said)
                simp only [value_require_ok, after_require_ok, gives_traced _ _]
                cases made : Interface.ofTree tree with
                | error failure =>
                    rcases require_error_ends output .document failure _ with
                      ⟨stop, value, stops⟩
                    rw [value]
                    exact .stopped (.document configured named loaded made)
                      (stops.of_markup traced)
                | ok interface =>
                    have describes : Describes world source interface :=
                      ⟨config, text, tree, configured, named, loaded, made⟩
                    exact .described describes fun _ again => tells.unique again ▸ readable
          · rcases value_diagnose_of_not_readable readable with ⟨markup, refused⟩
            rw [refused]
            exact .garbled tells readable

/-! ## The text -/

/-- A text that ends in one newline is printed as it is. -/
theorem jsonText_line {text : String} {front : List Char} {last : Char}
    (ends : text.toList = front ++ [last]) (plain : last ≠ '\n') :
    Output.jsonText (text ++ "\n") = text ++ "\n" := by
  have trailing : "\n".toList = ['\n'] := rfl
  rw [Output.jsonText, Output.line, String.toList_append, ends, trailing, List.reverse_append,
    List.reverse_singleton, List.singleton_append, List.dropWhile_cons_of_pos (by decide),
    List.reverse_append, List.reverse_singleton, List.singleton_append,
    List.dropWhile_cons_of_neg (by simpa using plain), List.reverse_cons, List.reverse_reverse,
    ← ends, String.ofList_toList]

theorem value_textOf (interface : Interface) (world : World) :
    world.value (textOf interface : Action Run String).run =
      match interface.dump? with
      | some text => .ok text
      | none => .error (.crash (.document .illegible)) := by
  rw [textOf]
  cases interface.dump? <;> rfl

theorem after_textOf (interface : Interface) (world : World) :
    world.after (textOf interface : Action Run String).run = world := by
  rw [textOf]
  cases interface.dump? <;> rfl

/-- The text of an interface is printed as it is written to a file. -/
theorem jsonText_dump {interface : Interface} {text : String}
    (dumped : interface.dump? = some text) : Output.jsonText text = text := by
  rcases Option.map_eq_some_iff.mp dumped with ⟨_, found, rfl⟩
  rcases Json.dump?_eq_some_iff.mp found with ⟨_, rfl⟩
  have braced : Exists fun front => (Json.render interface.toJson).toList = front ++ ['\x7d'] := by
    rw [Json.render, Interface.toJson, Json.write, String.toList_ofList]
    exact ⟨_, rfl⟩
  rcases braced with ⟨front, ends⟩
  exact jsonText_line ends (by decide)

/-! ## Translating -/

/-- The text of the interface of the document that a configuration names. -/
def Yields (world : World) (source : Option String) (text : String) : Prop :=
  Exists fun interface => Describes world source interface ∧ interface.dump? = some text

/-- A document has one text. -/
theorem Yields.unique {world : World} {source : Option String} {text other : String}
    (yields : Yields world source text) (again : Yields world source other) : text = other := by
  rcases yields with ⟨interface, describes, dumped⟩
  rcases again with ⟨_, again, dumpedAgain⟩
  cases describes.unique again
  exact Option.some.inj (dumped.symm.trans dumpedAgain)

/-- A problem of a translation: one of loading, or one that is met when the interface is to be
written, or when its text is to be put somewhere. -/
inductive Meets (before : World) (output : Output) (source target : Option String) :
    Problem -> Prop
  | loading {problem : Problem} (met : LoadMeets before source problem) :
      Meets before output source target problem
  | illegible {interface : Interface} (describes : Describes before source interface)
      (unwritten : interface.dump? = none) :
      Meets before output source target (.document .illegible)
  | config {data : String} {error : ConfigError} (yields : Yields before source data)
      (failed : before.value (Config.resolve ⟨source, none, target⟩) = .error error) :
      Meets before output source target (.config error)
  | write {data : String} {config : Config} {text : String} {error : OutputFile.WriteError}
      (yields : Yields before source data)
      (configured : before.value (Config.resolve ⟨source, none, target⟩) = .ok config)
      (targeted : config.output = some text)
      (failed : (before.after (loadInterface output source).run).value
        (OutputFile.write (.ofText text) data) = .error error) :
      Meets before output source target (.write error)

/-- A text was written to the file that a path leads to.  Every other file that there was is as
before. -/
def Delivered (before after : World) (path : Path) (text : String) : Prop :=
  Exists fun place => after.files.locate after.current path = .ok place ∧
    after.files.content? place = some text.toUTF8.toList ∧
    forall other content, other ≠ place -> before.files.content? other = some content ->
      after.files.content? other = some content

/-- The path of the file for output, where one is configured. -/
def Targets (before : World) (source target : Option String) (path : Path) : Prop :=
  Exists fun config => Exists fun text =>
    before.value (Config.resolve ⟨source, none, target⟩) = .ok config ∧
    config.output = some text ∧ before.value (OutputFile.expandHome (.ofText text)) = .ok path

/-- No file has changed that there was, and none is new under the name of the file for output. -/
structure LeavesTarget (before after : World) (source target : Option String) : Prop where
  files : forall place content, before.files.content? place = some content ->
    after.files.content? place = some content
  target : forall path, Targets before source target path -> before.Unharmed after path.name

/-- What a translation says: that it starts, what stops it, or what it has written. -/
inductive Tells (before : World) (output : Output) (source target : Option String) :
    Diagnostic -> Prop
  | loading {diagnostic : Diagnostic} (tells : LoadTells before output source diagnostic) :
      Tells before output source target diagnostic
  | problem {problem : Problem} {message : String}
      (met : Meets before output source target problem)
      (foreseen : problem.message? = some message) :
      Tells before output source target (output.error message)
  | summary {interface : Interface} {path : Path} (describes : Describes before source interface)
      (targets : Targets before source target path) :
      Tells before output source target (output.success (summary interface path))

/-- Without colours, all that a translation says is shown. -/
theorem Tells.readable_of_colourless {before : World} {output : Output}
    {source target : Option String} {diagnostic : Diagnostic}
    (tells : Tells before output source target diagnostic)
    (colourless : output.colourless = true) : Readable before diagnostic := by
  cases tells with
  | loading tells => exact tells.readable_of_colourless colourless
  | problem _ _ => exact readable_say colourless before _ _
  | summary _ _ =>
      rw [Output.success]
      split
      · trivial
      · exact readable_say colourless before _ _

/-- How a translation ends. -/
inductive TranslationEnds (before : World) (output : Output) (source target : Option String) :
    Except Stop Unit -> World -> Prop
  | printed {data : String} {config : Config} {after : World}
      (yields : Yields before source data)
      (configured : before.value (Config.resolve ⟨source, none, target⟩) = .ok config)
      (untargeted : config.output = none) (printed : after.output = before.output ++ data)
      (files : after.files = before.files) :
      TranslationEnds before output source target (.ok ()) after
  | written {data : String} {path : Path} {after : World} (yields : Yields before source data)
      (targets : Targets before source target path) (silent : after.output = before.output)
      (delivered : Delivered before after path data) :
      TranslationEnds before output source target (.ok ()) after
  | unnamed {after : World} (unnamed : Unnamed before source)
      (silent : after.output = before.output) (files : after.files = before.files) :
      TranslationEnds before output source target (.error (.exit ExitCode.misuse)) after
  | stopped {problem : Problem} {stop : Stop} {after : World}
      (met : Meets before output source target problem)
      (stops : StopEnds before output problem stop) (silent : after.output = before.output)
      (leaves : LeavesTarget before after source target) :
      TranslationEnds before output source target (.error stop) after
  | garbled {diagnostic : Diagnostic} {markup : String} {after : World}
      (tells : Tells before output source target diagnostic)
      (unreadable : ¬ Readable before diagnostic) (silent : after.output = before.output) :
      TranslationEnds before output source target (.error (.crash (.markup markup))) after

theorem LeavesTarget.of_files {before after : World} {source target : Option String}
    (same : after.files = before.files) : LeavesTarget before after source target where
  files place content found := by rw [same, found]
  target path _ place _ := by rw [same]

theorem LeavesTarget.trans_files {before after later : World} {source target : Option String}
    (leaves : LeavesTarget before after source target) (same : later.files = after.files) :
    LeavesTarget before later source target where
  files place content found := by rw [same, leaves.files place content found]
  target path targets place known := by rw [same, leaves.target path targets place known]

/-- A file was there, so its place was not vacant. -/
theorem not_vacant_of_content {world : World} {name : String} {place : Place}
    {content : List UInt8} (found : world.files.content? place = some content) :
    ¬ world.Vacant name place := by
  intro vacant
  rw [FileSystem.content?_eq_some_iff, vacant.1] at found
  cases found

section Putting

variable {before : World} {source target : Option String} {config : Config} {text data : String}
  {interface : Interface}

/-- Whatever was said before, a text that cannot be written leaves the target alone. -/
theorem LeavesTarget.of_write {said : String} {error : OutputFile.WriteError}
    (configured : before.value (Config.resolve ⟨source, none, target⟩) = .ok config)
    (targeted : config.output = some text)
    (failed : (before.said said).value (OutputFile.write (.ofText text) data) = .error error) :
    ((before.said said).after (OutputFile.write (.ofText text) data)).output = before.output ∧
      ((before.said said).after (OutputFile.write (.ofText text) data)).markup = before.markup ∧
      LeavesTarget before ((before.said said).after (OutputFile.write (.ofText text) data))
        source target := by
  have same {path : Path} (targets : Targets before source target path) :
      before.value (OutputFile.expandHome (.ofText text)) = .ok path := by
    rcases targets with ⟨_, _, configured', targeted', expanded⟩
    cases configured.symm.trans configured'
    cases targeted.symm.trans targeted'
    exact expanded
  rcases write_failed failed with ⟨path, expanded, writes⟩ | ⟨refused, stays⟩
  · rw [(asks_expandHome _).said] at expanded
    refine ⟨writes.output, writes.markup, ?_, ?_⟩
    · intro place content found
      exact (writes.files.files place (not_vacant_of_content found)).trans found
    · intro other targets
      cases expanded.symm.trans (same targets)
      exact writes.unharmed
  · rw [stays]
    exact ⟨rfl, rfl, .of_files rfl⟩

theorem delivered_of_write {said : String} {path : Path}
    (written : (before.said said).value (OutputFile.write (.ofText text) data) = .ok path) :
    before.value (OutputFile.expandHome (.ofText text)) = .ok path ∧
      ((before.said said).after (OutputFile.write (.ofText text) data)).output = before.output ∧
      ((before.said said).after (OutputFile.write (.ofText text) data)).markup = before.markup ∧
      Delivered before ((before.said said).after (OutputFile.write (.ofText text) data)) path
        data := by
  rcases write_done written with ⟨expanded, place, writes, located, content⟩
  rw [(asks_expandHome _).said] at expanded
  refine ⟨expanded, writes.output, writes.markup, place, located, content, ?_⟩
  exact fun other kept differs found => (writes.files.files other differs).trans found

theorem Delivered.said {after : World} {path : Path} (delivered : Delivered before after path data)
    (more : String) : Delivered before (after.said more) path data := delivered

/-- The text of an interface is written to the file for output, or that is left alone. -/
theorem put_ends (output : Output) {said : String} (describes : Describes before source interface)
    (dumped : interface.dump? = some data)
    (told : before.after (loadInterface output source).run = before.said said)
    (configured : before.value (Config.resolve ⟨source, none, target⟩) = .ok config)
    (targeted : config.output = some text) :
    let put : Action Run Unit := do
      let path ← require output .write (← lift (OutputFile.write (.ofText text) data))
      diagnose (output.success (summary interface path))
    TranslationEnds before output source target ((before.said said).value put.run)
      ((before.said said).after put.run) := by
  simp only [value_stoppable_bind, after_stoppable_bind, value_lift, after_lift]
  have yields : Yields before source data := ⟨interface, describes, dumped⟩
  cases outcome : (before.said said).value (OutputFile.write (.ofText text) data) with
  | error error =>
      rcases LeavesTarget.of_write configured targeted outcome with ⟨silent, markup, leaves⟩
      have met : Meets before output source target (.write error) :=
        .write yields configured targeted (by rw [told]; exact outcome)
      have speaks : Speaks (require output .write (.error error) : Action Run Path).run :=
        speaks_require _ _ _
      rcases require_error_ends output .write error _ with ⟨stop, value, stops⟩
      rw [value]
      exact .stopped met (stops.of_markup markup) ((speaks.output _).trans silent)
        (leaves.trans_files (speaks.files _))
  | ok path =>
      rcases delivered_of_write outcome with ⟨expanded, silent, markup, delivered⟩
      have tells := speaks_diagnose (output.success (summary interface path))
      have targets : Targets before source target path :=
        ⟨config, text, configured, targeted, expanded⟩
      simp only [value_require_ok, after_require_ok]
      by_cases readable : Readable before (output.success (summary interface path))
      · rw [value_diagnose_of_readable ((readable_iff_of_markup markup _).mpr readable)]
        refine .written yields targets ((tells.output _).trans silent) ?_
        rcases tells ((before.said said).after (OutputFile.write (.ofText text) data)) with
          ⟨more, toldMore⟩
        rw [toldMore]
        exact delivered.said more
      · rcases value_diagnose_of_not_readable (mt (readable_iff_of_markup markup _).mp readable)
          with ⟨refused, value⟩
        rw [value]
        exact .garbled (.summary describes targets) readable ((tells.output _).trans silent)

/-- The text of an interface is printed, or written where a file for output is configured. -/
theorem text_ends (output : Output) {said : String} (describes : Describes before source interface)
    (dumped : interface.dump? = some data)
    (told : before.after (loadInterface output source).run = before.said said) :
    let put : Action Run Unit := do
      let config ← require output .config (← lift (Config.resolve ⟨source, none, target⟩))
      match config.output with
      | none => lift (printOutput (Output.jsonText data))
      | some target => do
          let path ← require output .write (← lift (OutputFile.write (.ofText target) data))
          diagnose (output.success (summary interface path))
    TranslationEnds before output source target ((before.said said).value put.run)
      ((before.said said).after put.run) := by
  simp only [value_stoppable_bind, after_stoppable_bind, value_lift, after_lift,
    (asks_resolve _).leaves, (asks_resolve _).said]
  have yields : Yields before source data := ⟨interface, describes, dumped⟩
  cases configured : before.value (Config.resolve ⟨source, none, target⟩) with
  | error error =>
      have speaks : Speaks (require output .config (.error error) : Action Run Config).run :=
        speaks_require _ _ _
      rcases require_error_ends output .config error (before.said said) with ⟨stop, value, stops⟩
      rw [value]
      exact .stopped (.config yields configured) (stops.of_markup (said_markup said))
        (speaks.output _) (.of_files (speaks.files _))
  | ok config =>
      simp only [value_require_ok, after_require_ok]
      cases targeted : config.output with
      | none =>
          refine .printed yields configured targeted ?_ rfl
          rw [jsonText_dump dumped]
          rfl
      | some text => exact put_ends output describes dumped told configured targeted

end Putting

theorem LoadEnds.translationEnds {before after : World} {output : Output}
    {source target : Option String} {stop : Stop}
    (ends : LoadEnds before output source (.error stop)) (silent : after.output = before.output)
    (files : after.files = before.files) :
    TranslationEnds before output source target (.error stop) after := by
  cases ends with
  | unnamed unnamed _ => exact .unnamed unnamed silent files
  | stopped met stops => exact .stopped (.loading met) stops silent (.of_files files)
  | garbled tells unreadable => exact .garbled (.loading tells) unreadable silent

theorem translate_ends (output : Output) (source target : Option String) (before : World) :
    TranslationEnds before output source target
      (before.value (translate output source target).run)
      (before.after (translate output source target).run) := by
  have loading := speaks_loadInterface output source
  have ends := loadInterface_ends output source before
  rw [translate, value_stoppable_bind, after_stoppable_bind]
  cases found : before.value (loadInterface output source).run with
  | error stop =>
      rw [found] at ends
      exact ends.translationEnds (loading.output before) (loading.files before)
  | ok interface =>
      rw [found] at ends
      rcases loading before with ⟨said, told⟩
      cases ends with
      | described describes _ =>
          simp only
          rw [told, value_stoppable_bind, after_stoppable_bind, value_textOf, after_textOf]
          cases dumped : interface.dump? with
          | none => exact .stopped (.illegible describes dumped) (.crash rfl) rfl (.of_files rfl)
          | some data => exact text_ends output describes dumped told

/-! ## Invocations -/

/-- A run that prints nothing on the stream for output. -/
def Silent (run : Run α) : Prop := forall world : World, (world.after run).output = world.output

theorem Silent.bind {β : Type} {run : Run α} {next : α -> Run β} (first : Silent run)
    (rest : forall result, Silent (next result)) : Silent (run >>= next) := by
  intro world
  rw [after_bind, rest _ _, first world]

theorem silent_of_asks {run : Run α} (asks : Asks run) : Silent run := asks.speaks.output

theorem silent_ensureDirectory (path : Path) :
    Silent (OutputFile.ensureDirectory path : Run (Except OsError Unit)) :=
  fun world =>
    have writes : Writes (fun _ => False) world _ := ensureDirectory_writes path world
    writes.output

theorem silent_save (path : Path) (text : String) : Silent (Host.save path text) := by
  intro world
  have ends := change_ends [path]
    (fun files current => files.saveFile current path text.toUTF8.toList) world
  exact ends.output

/-- The report of a crash goes to a file. -/
theorem silent_reportCrash (problem : Problem) : Silent (reportCrash problem : Run Path) := by
  have directory : Silent (DataDirectory.ensure : Run (Except OsError Path)) := by
    refine (silent_of_asks asks_system).bind fun _ => ?_
    refine (silent_of_asks asks_homeDirectory).bind fun _ => ?_
    refine (silent_of_asks (asks_environment _)).bind fun _ => ?_
    refine (silent_ensureDirectory _).bind fun outcome => ?_
    split <;> exact silent_of_asks (asks_pure _)
  have report (place : Path) : Silent (do
      discard (OutputFile.ensureDirectory (place.child "logs"))
      let path := (place.child "logs").child ("crash-" ++ (← Host.timestamp) ++ ".log")
      discard (Host.save path (Output.line (reprStr problem)))
      return path : Run Path) := by
    refine Silent.bind (silent_ensureDirectory _) fun _ => ?_
    refine (silent_of_asks asks_timestamp).bind fun _ => ?_
    exact Silent.bind (silent_save _ _) fun _ => silent_of_asks (asks_pure _)
  refine directory.bind fun outcome => ?_
  split
  · exact (silent_of_asks (asks_pure _)).bind report
  · exact (silent_of_asks asks_homeDirectory).bind report

theorem asks_outputFor (flags : CommandLine.Flags) : Asks (outputFor flags : Run Output) :=
  (asks_environment _).bind fun _ => (asks_environment _).bind fun _ =>
    asks_isTerminal.bind fun _ => asks_pure _

/-- A command line that asks for a command runs it, in the world as it is. -/
theorem main_of_run (entries : List RendererEntry) {args : List String}
    {flags : CommandLine.Flags} {command : CommandLine.Command}
    (asked : CommandLine.read args = .run flags command) {before : World}
    {outcome : Except Stop Unit}
    (ran : before.value (run (before.value (outputFor flags)) entries command).run = outcome) :
    before.value (main entries args) =
        (before.after (run (before.value (outputFor flags)) entries command).run).value
          (conclude (before.value (outputFor flags)) outcome) ∧
      before.after (main entries args) =
        (before.after (run (before.value (outputFor flags)) entries command).run).after
          (conclude (before.value (outputFor flags)) outcome) := by
  have leaves := (asks_outputFor flags).leaves before
  have body : (main entries args : Run Nat) = outputFor flags >>= fun output =>
      (run output entries command).run >>= conclude output := by
    rw [main, asked]
  rw [body, value_bind, value_bind, after_bind, after_bind, leaves, ran]
  exact ⟨rfl, rfl⟩

/-- A crash has one exit code, and prints nothing on the stream for output. -/
theorem conclude_crash (output : Output) (problem : Problem) (world : World) :
    world.value (conclude output (.error (.crash problem)) : Run Nat) = ExitCode.failure ∧
      (world.after (conclude output (.error (.crash problem)) : Run Nat)).output =
        world.output := by
  have reports : Silent (conclude output (.error (.crash problem)) : Run Nat) :=
    (silent_reportCrash problem).bind fun _ =>
      Silent.bind (speaks_diagnose _).discard.output fun _ => silent_of_asks (asks_pure _)
  exact ⟨rfl, reports world⟩

/-- No file for output is configured. -/
def Untargeted (before : World) (source target : Option String) : Prop :=
  Exists fun config => before.value (Config.resolve ⟨source, none, target⟩) = .ok config ∧
    config.output = none

/-- What an invocation leaves of a translation: the exit code, and what has become of the stream
for output and of the files. -/
inductive Invocation (before : World) (output : Output) (source target : Option String)
    (code : Nat) (after : World) : Prop
  | printed {data : String} (yields : Yields before source data)
      (untargeted : Untargeted before source target) (succeeds : code = ExitCode.success)
      (printed : after.output = before.output ++ data) (files : after.files = before.files)
  | written {data : String} {path : Path} (yields : Yields before source data)
      (targets : Targets before source target path) (succeeds : code = ExitCode.success)
      (silent : after.output = before.output) (delivered : Delivered before after path data)
  | unnamed (unnamed : Unnamed before source) (fails : code = ExitCode.misuse)
      (silent : after.output = before.output) (files : after.files = before.files)
  | foreseen {problem : Problem} {message : String} (met : Meets before output source target problem)
      (foreseen : problem.message? = some message)
      (readable : Readable before (output.error message)) (fails : code = problem.exitCode)
      (silent : after.output = before.output) (leaves : LeavesTarget before after source target)
  | crashed {problem : Problem} (met : Meets before output source target problem)
      (unforeseen : problem.message? = none) (fails : code = ExitCode.failure)
      (silent : after.output = before.output)
  | garbled {diagnostic : Diagnostic} (tells : Tells before output source target diagnostic)
      (unreadable : ¬ Readable before diagnostic) (fails : code = ExitCode.failure)
      (silent : after.output = before.output)

theorem exitCode_ne_success (problem : Problem) : problem.exitCode ≠ ExitCode.success := by
  cases problem <;> exact Nat.succ_ne_zero _

theorem invocation_of_translate (entries : List RendererEntry) {args : List String}
    {flags : CommandLine.Flags} {source target : Option String}
    (asked : CommandLine.read args = .run flags (.translate source target)) (before : World) :
    Invocation before (before.value (outputFor flags)) source target
      (before.value (main entries args)) (before.after (main entries args)) := by
  have ends := translate_ends (before.value (outputFor flags)) source target before
  rcases main_of_run entries asked rfl with ⟨value, after⟩
  rw [value, after, run]
  generalize before.value (outputFor flags) = output at ends
  generalize before.value (translate output source target).run = outcome at ends
  generalize before.after (translate output source target).run = after at ends
  cases ends with
  | printed yields configured untargeted printed files =>
      exact .printed yields ⟨_, configured, untargeted⟩ rfl printed files
  | written yields targets silent delivered => exact .written yields targets rfl silent delivered
  | unnamed unnamed silent files => exact .unnamed unnamed rfl silent files
  | stopped met stops silent leaves =>
      cases stops with
      | exit foreseen readable => exact .foreseen met foreseen readable rfl silent leaves
      | garbled foreseen unreadable =>
          rcases conclude_crash output _ after with ⟨code, reports⟩
          exact .garbled (.problem met foreseen) unreadable code (reports.trans silent)
      | crash unforeseen =>
          rcases conclude_crash output _ after with ⟨code, reports⟩
          exact .crashed met unforeseen code (reports.trans silent)
  | garbled tells unreadable silent =>
      rcases conclude_crash output _ after with ⟨code, reports⟩
      exact .garbled tells unreadable code (reports.trans silent)

theorem Targets.unique {before : World} {source target : Option String} {path other : Path}
    (targets : Targets before source target path) (again : Targets before source target other) :
    path = other := by
  rcases targets with ⟨_, _, configured, targeted, expanded⟩
  rcases again with ⟨_, _, configured', targeted', expanded'⟩
  cases configured.symm.trans configured'
  cases targeted.symm.trans targeted'
  exact Except.ok.inj (expanded.symm.trans expanded')

theorem Targets.not_untargeted {before : World} {source target : Option String} {path : Path}
    (targets : Targets before source target path) : ¬ Untargeted before source target := by
  rintro ⟨_, configured', untargeted⟩
  rcases targets with ⟨_, _, configured, targeted, _⟩
  cases configured.symm.trans configured'
  cases targeted.symm.trans untargeted

namespace Invocation

variable {before after : World} {output : Output} {source target : Option String}

/-- An invocation that succeeds and prints something prints the text of the interface. -/
theorem yields_of_printed {printed : String}
    (invocation : Invocation before output source target ExitCode.success after)
    (prints : after.output = before.output ++ printed) (shows : printed ≠ "") :
    Yields before source printed := by
  have silent (nothing : after.output = before.output) : False := by
    rw [nothing] at prints
    exact shows ((String.append_right_inj _).mp (prints.symm.trans String.append_empty.symm))
  cases invocation with
  | printed yields _ _ told _ =>
      rw [(String.append_right_inj _).mp (prints.symm.trans told)]
      exact yields
  | written _ _ _ nothing _ => exact (silent nothing).elim
  | unnamed _ _ nothing _ => exact (silent nothing).elim
  | foreseen _ _ _ _ nothing _ => exact (silent nothing).elim
  | crashed _ _ _ nothing => exact (silent nothing).elim
  | garbled _ _ _ nothing => exact (silent nothing).elim

/-- An invocation that succeeds with a file for output puts the text of the interface there. -/
theorem delivered_of_targets {path : Path}
    (invocation : Invocation before output source target ExitCode.success after)
    (targets : Targets before source target path) :
    Exists fun data => Yields before source data ∧ Delivered before after path data := by
  cases invocation with
  | printed _ untargeted _ _ _ => exact absurd untargeted targets.not_untargeted
  | @written data other yields found _ _ delivered =>
      rw [targets.unique found]
      exact ⟨data, yields, delivered⟩
  | unnamed _ fails _ _ => exact absurd fails (by decide)
  | foreseen _ _ _ fails _ _ => exact absurd fails.symm (exitCode_ne_success _)
  | crashed _ _ fails _ => exact absurd fails (by decide)
  | garbled _ _ fails _ => exact absurd fails (by decide)

end Invocation

/-- A world with a document of no paths. -/
def documentWorld : World :=
  { World.bare ["w"] ⟨true, ["home"]⟩ with
    files := ⟨[(["w"], .directory),
      (["w", "d.json"], .file "\x7b\"paths\":\x7b\x7d\x7d".toUTF8.toList)]⟩ }

/-- The name of a document, with a mark in it that closes nothing. -/
def markedSource : String := "spec[/v2].yaml"

end Command
end RouteIR
