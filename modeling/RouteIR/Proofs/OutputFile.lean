import RouteIR.OutputFile
import RouteIR.Proofs.World

namespace RouteIR

/-!
# Steps of writing

A text is written in steps, each of which may fail by its fate.  What a step does to the files
is said here once for each kind: some change nothing that can be seen, some add to the end of
one file, and some make, move or remove one.  No step changes the file at any other place, and
none removes a directory.
-/

namespace World

/-- What writing may do to a world when some places are spared from all promises: it changes the
files, within what is promised for them, and nothing else but the faults still to come. -/
structure Writes (spared : Place -> Prop) (before after : World) : Prop where
  files : before.files.Keeps spared after.files
  rest : after = { before with files := after.files, faults := after.faults }

namespace Writes

variable {spared wider : Place -> Prop} {before middle after : World}

theorem refl (spared : Place -> Prop) (world : World) : Writes spared world world :=
  ⟨.refl spared world.files, rfl⟩

theorem trans (first : Writes spared before middle) (second : Writes spared middle after) :
    Writes spared before after :=
  ⟨first.files.trans second.files, second.rest.trans (by rw [first.rest])⟩

theorem mono (writes : Writes spared before after)
    (within : forall place, spared place -> wider place) : Writes wider before after :=
  ⟨writes.files.mono within, writes.rest⟩

theorem current (writes : Writes spared before after) : after.current = before.current := by
  rw [writes.rest]

theorem output (writes : Writes spared before after) : after.output = before.output := by
  rw [writes.rest]

theorem markup (writes : Writes spared before after) : after.markup = before.markup := by
  rw [writes.rest]

theorem randomPart (writes : Writes spared before after) :
    after.randomPart = before.randomPart := by
  rw [writes.rest]

/-- Writing leads no path astray. -/
theorem locate (writes : Writes spared before after) {path : Path} {place : Place}
    (located : before.files.locate before.current path = .ok place) :
    after.files.locate after.current path = .ok place := by
  rw [writes.current]
  exact FileSystem.locate_of_directories writes.files.directories located

end Writes

variable {world : World} {spared : Place -> Prop}

theorem Asks.writes {α : Type} {run : Run α} (asks : Asks run) (world : World) :
    Writes spared world (world.after run) := by
  rw [asks.leaves]
  exact .refl spared world

/-! ## Steps of writing -/

/-- How so many steps end under the given fates, and the fates that are left then.  The first
fault ends them. -/
def spend : Nat -> List (Option OsError) -> Except OsError Unit × List (Option OsError)
  | 0, fates => (.ok (), fates)
  | _ + 1, [] => (.ok (), [])
  | steps + 1, none :: rest => spend steps rest
  | _ + 1, some error :: rest => (.error error, rest)

theorem spend_nil (steps : Nat) : spend steps [] = (.ok (), []) := by
  cases steps <;> rfl

theorem spend_one (fates : List (Option OsError)) :
    spend 1 fates = (match fates.head?.join with
      | some error => .error error
      | none => .ok (), fates.tail) := by
  cases fates with
  | nil => rfl
  | cons fate rest => cases fate <;> rfl

theorem spend_one_snd (fates : List (Option OsError)) : (spend 1 fates).2 = fates.tail := by
  rw [spend_one]

/-- If the first step is done, it is for the others to say how all end. -/
theorem spend_succ_of_ok {steps : Nat} {fates : List (Option OsError)}
    (done : (spend 1 fates).1 = .ok ()) : spend (steps + 1) fates = spend steps fates.tail := by
  cases fates with
  | nil => rw [spend_nil, List.tail_nil, spend_nil]
  | cons fate rest =>
      cases fate with
      | none => rfl
      | some error => cases done

theorem spend_succ_of_error {steps : Nat} {fates : List (Option OsError)} {error : OsError}
    (failed : (spend 1 fates).1 = .error error) :
    spend (steps + 1) fates = (.error error, fates.tail) := by
  cases fates with
  | nil => cases failed
  | cons fate rest =>
      cases fate with
      | none => cases failed
      | some other =>
          cases failed
          rfl

section Steps

variable (paths : List Path) (step : FileSystem -> Place -> Except OsFault FileSystem)

/-- How a step ends: it fails and the files are as before, or it changes them. -/
structure StepEnds (before : World) (outcome : Except OsError Unit) (after : World) : Prop where
  rest : after = { before with files := after.files, faults := after.faults }
  failed : forall error, outcome = .error error -> after.files = before.files
  done : outcome = .ok () -> step before.files before.current = .ok after.files

theorem value_change {world : World} {files : FileSystem}
    (possible : step world.files world.current = .ok files) :
    world.value (change paths step) = .ok () := by
  simp [value, change, StateT.run, possible]

theorem after_change {world : World} {files : FileSystem}
    (possible : step world.files world.current = .ok files) :
    world.after (change paths step) = { world with files := files } := by
  simp [after, change, StateT.run, possible]

theorem change_ends (world : World) :
    StepEnds step world (world.value (change paths step)) (world.after (change paths step)) := by
  cases outcome : step world.files world.current with
  | error fault =>
      have stays : world.after (change paths step) = world := by
        simp [after, change, StateT.run, outcome]
      have fails : world.value (change paths step) = .error (.ofFault fault paths) := by
        simp [value, change, StateT.run, outcome]
      rw [stays, fails]
      exact ⟨rfl, fun _ _ => rfl, nofun⟩
  | ok files =>
      rw [value_change paths step outcome, after_change paths step outcome]
      exact ⟨rfl, nofun, fun _ => outcome⟩

theorem value_nextFault (world : World) : world.value nextFault = world.faults.head?.join := by
  cases pending : world.faults <;> simp [value, nextFault, StateT.run, pending]

theorem after_nextFault (world : World) :
    world.after nextFault = { world with faults := world.faults.tail } := by
  rcases world with ⟨_, _, _, _, _, _, _, _, _, _, _, _, fates, _, _, _⟩
  cases fates <;> rfl

theorem faults_change (world : World) : (world.after (change paths step)).faults = world.faults := by
  cases outcome : step world.files world.current <;> simp [after, change, StateT.run, outcome]

theorem writingStep_ends (world : World) :
    StepEnds step world (world.value (writingStep paths step))
      (world.after (writingStep paths step)) := by
  rw [writingStep, value_bind, after_bind, value_nextFault, after_nextFault]
  cases world.faults.head?.join with
  | some error => exact ⟨rfl, fun _ _ => rfl, nofun⟩
  | none =>
      have ends := change_ends paths step { world with faults := world.faults.tail }
      exact ⟨ends.rest.trans rfl, ends.failed, ends.done⟩

/-- A step that nothing stands in the way of ends as it is meant to. -/
theorem value_writingStep {world : World} {files : FileSystem}
    (possible : step world.files world.current = .ok files) :
    world.value (writingStep paths step) = (spend 1 world.faults).1 := by
  rw [writingStep, value_bind, value_nextFault, after_nextFault, spend_one]
  cases world.faults.head?.join with
  | some error => rfl
  | none => exact value_change paths step possible

/-- A step takes up one fate. -/
theorem faults_writingStep (world : World) :
    (world.after (writingStep paths step)).faults = world.faults.tail := by
  rw [writingStep, after_bind, value_nextFault, after_nextFault]
  cases world.faults.head?.join with
  | some error => rfl
  | none => exact faults_change paths step _

end Steps

section Ends

variable {step : FileSystem -> Place -> Except OsFault FileSystem}
  {outcome : Except OsError Unit} {before after : World}

theorem StepEnds.output (ends : StepEnds step before outcome after) :
    after.output = before.output := by
  rw [ends.rest]

/-- A step keeps what its changes keep. -/
theorem StepEnds.writes (ends : StepEnds step before outcome after)
    (keeps : forall changed, step before.files before.current = .ok changed ->
      before.files.Keeps spared changed) : Writes spared before after := by
  refine ⟨?_, ends.rest⟩
  cases outcome with
  | error error =>
      rw [ends.failed error rfl]
      exact .refl spared before.files
  | ok _ => exact keeps _ (ends.done rfl)

end Ends

/-- A step that changes no file, whatever comes of it. -/
theorem quietStep_ends (world : World) :
    Writes spared world (world.after quietStep) ∧
      (world.after quietStep).files = world.files := by
  have ends := writingStep_ends [] (fun files _ => .ok files) world
  have same : (world.after quietStep).files = world.files := by
    cases outcome : world.value quietStep with
    | error error => exact ends.failed error outcome
    | ok _ => exact (Except.ok.inj (ends.done outcome)).symm
  refine ⟨⟨?_, ends.rest⟩, same⟩
  rw [same]
  exact .refl spared world.files

theorem makeDirectory_writes (path : Path) (world : World) :
    Writes spared world (world.after (Host.makeDirectory path)) :=
  (change_ends [path] (fun files current => files.makeDirectory current path) world).writes
    fun _ made => .makeDirectory made

/-! ## Making directories -/

theorem asks_settle (path : Path) (outcome : Except OsError Unit) :
    Asks (OutputFile.settle path outcome : Run (Except OsError Unit)) := by
  cases outcome with
  | ok _ => exact asks_pure _
  | error error =>
      refine (asks_kindAt path).bind fun kind => ?_
      split <;> exact asks_pure _

theorem ensureWithin_writes (depth : Nat) (path : Path) (world : World) :
    Writes spared world (world.after (OutputFile.ensureWithin depth path)) := by
  induction depth generalizing path world with
  | zero =>
      rw [OutputFile.ensureWithin, after_bind]
      exact (makeDirectory_writes path world).trans ((asks_settle path _).writes _)
  | succ depth ih =>
      rw [OutputFile.ensureWithin, after_bind]
      refine (makeDirectory_writes path world).trans ?_
      split
      · rw [after_bind]
        refine (ih path.parent _).trans ?_
        split
        · exact .refl spared _
        · rw [after_bind]
          exact (makeDirectory_writes path _).trans ((asks_settle path _).writes _)
      · exact (asks_settle path _).writes _

theorem ensureDirectory_writes (path : Path) (world : World) :
    Writes spared world (world.after (OutputFile.ensureDirectory path)) :=
  ensureWithin_writes path.parts.length path world

/-- Making directories takes up no fate. -/
theorem faults_ensureWithin (depth : Nat) (path : Path) (world : World) :
    (world.after (OutputFile.ensureWithin depth path)).faults = world.faults := by
  have made (path : Path) (world : World) :
      (world.after (Host.makeDirectory path)).faults = world.faults :=
    faults_change [path] (fun files current => files.makeDirectory current path) world
  have settled (path : Path) (outcome : Except OsError Unit) (world : World) :
      (world.after (OutputFile.settle path outcome)).faults = world.faults := by
    rw [(asks_settle path outcome).leaves]
  induction depth generalizing path world with
  | zero => rw [OutputFile.ensureWithin, after_bind, settled, made]
  | succ depth ih =>
      rw [OutputFile.ensureWithin, after_bind]
      split
      · rw [after_bind]
        split
        · exact (ih path.parent _).trans (made path world)
        · rw [after_bind, settled, made, ih, made]
      · exact (settled path _ _).trans (made path world)

theorem faults_ensureDirectory (path : Path) (world : World) :
    (world.after (OutputFile.ensureDirectory path)).faults = world.faults :=
  faults_ensureWithin path.parts.length path world

/-! ## Work on a temporary file -/

section Temporary

variable {path : Path} {place : Place} {steps : Nat} {held more : List UInt8}

/-- How some steps end that are to complete a file.  They end by their fates alone, the file is
there in any case, and no other has changed. -/
structure Completes (steps : Nat) (place : Place) (whole : List UInt8) (before : World)
    (outcome : Except OsError Unit) (after : World) : Prop where
  writes : Writes (· = place) before after
  ended : outcome = (spend steps before.faults).1
  faults : after.faults = (spend steps before.faults).2
  there : after.files.content? place ≠ none
  done : outcome = .ok () -> after.files.content? place = some whole

/-- Steps that add to the end of the file to which a path leads. -/
def Adds (steps : Nat) (path : Path) (place : Place) (more : List UInt8)
    (run : Run (Except OsError Unit)) : Prop :=
  forall (world : World) (held : List UInt8),
    world.files.locate world.current path = .ok place ->
    world.files.content? place = some held ->
    Completes steps place (held ++ more) world (world.value run) (world.after run)

theorem adds_quietStep : Adds 1 path place [] quietStep := by
  intro world held _ found
  rcases quietStep_ends world with ⟨writes, same⟩
  have still : (world.after quietStep).files.content? place = some held := by rw [same, found]
  refine ⟨writes, value_writingStep [] _ rfl, ?_, ?_, fun _ => ?_⟩
  · rw [spend_one_snd]
    exact faults_writingStep [] _ world
  · rw [still]
    nofun
  · rw [still, List.append_nil]

theorem adds_write (text : String) :
    Adds 1 path place text.toUTF8.toList (Host.write path text) := by
  intro world held located found
  have complete := FileSystem.content?_eq_some_iff.mp found
  have appended : world.files.append world.current path text.toUTF8.toList =
      .ok (world.files.putAt place (.file (held ++ text.toUTF8.toList))) :=
    FileSystem.append_eq_ok_iff.mpr ⟨place, held, located, complete, rfl⟩
  have ends := writingStep_ends [path]
    (fun files current => files.append current path text.toUTF8.toList) world
  have noDirectory : world.files.entry? place ≠ some .directory := by rw [complete]; nofun
  have put : FileSystem.content?
      (world.files.putAt place (.file (held ++ text.toUTF8.toList))) place =
        some (held ++ text.toUTF8.toList) :=
    FileSystem.content?_eq_some_iff.mpr (FileSystem.entry?_putAt_self (FileSystem.ne_root noDirectory))
  have done (succeeds : world.value (Host.write path text) = .ok ()) :
      FileSystem.content? (world.after (Host.write path text)).files place =
        some (held ++ text.toUTF8.toList) := by
    have changed := Except.ok.inj (appended.symm.trans (ends.done succeeds))
    exact (congrArg (fun files => FileSystem.content? files place) changed).symm.trans put
  refine ⟨?_, value_writingStep [path] _ appended, ?_, ?_, done⟩
  · refine ends.writes fun changed again => ?_
    cases appended.symm.trans again
    exact .putAt noDirectory _
  · rw [spend_one_snd]
    exact faults_writingStep [path] _ world
  · cases outcome : world.value (Host.write path text) with
    | error error =>
        have same : (world.after (Host.write path text)).files = world.files :=
          ends.failed error outcome
        rw [same, found]
        nofun
    | ok _ =>
        rw [done outcome]
        nofun

/-- Steps come after one another as long as none fails. -/
theorem Adds.stoppable_bind {first : ExceptT OsError Run Unit}
    {next : Unit -> ExceptT OsError Run Unit} {rest : List UInt8}
    (adds : Adds 1 path place more first.run)
    (addsRest : forall result, Adds steps path place rest (next result).run) :
    Adds (steps + 1) path place (more ++ rest) (first >>= next).run := by
  intro world held located found
  have ends := adds world held located found
  rw [value_stoppable_bind, after_stoppable_bind]
  have fates : (world.after first.run).faults = world.faults.tail :=
    ends.faults.trans (spend_one_snd world.faults)
  cases outcome : world.value first.run with
  | error error =>
      have stopped : spend (steps + 1) world.faults = (.error error, world.faults.tail) :=
        spend_succ_of_error (ends.ended.symm.trans outcome)
      refine ⟨ends.writes, ?_, ?_, ends.there, fun done => ?_⟩
      · rw [stopped]
      · rw [stopped]
        exact fates
      · cases done
  | ok result =>
      have going : spend (steps + 1) world.faults = spend steps world.faults.tail :=
        spend_succ_of_ok (ends.ended.symm.trans outcome)
      have later := addsRest result _ _ (ends.writes.locate located) (ends.done outcome)
      rw [List.append_assoc] at later
      refine ⟨ends.writes.trans later.writes, ?_, ?_, later.there, later.done⟩
      · rw [going, ← fates]
        exact later.ended
      · rw [going, ← fates]
        exact later.faults

/-- To fill a file takes four steps: the text is written, passed on, made to last, and the file
is closed. -/
theorem adds_fill (text : String) :
    Adds 4 path place text.toUTF8.toList (OutputFile.fill path text).run := by
  have closing : Adds 3 path place [] (do
      ExceptT.mk (Host.flush path)
      ExceptT.mk (Host.sync path)
      ExceptT.mk (Host.close path) : ExceptT OsError Run Unit).run :=
    adds_quietStep.stoppable_bind fun _ => adds_quietStep.stoppable_bind fun _ => adds_quietStep
  have written : Adds 1 path place text.toUTF8.toList
      (ExceptT.mk (Host.write path text) : ExceptT OsError Run Unit).run := adds_write text
  have whole := written.stoppable_bind fun _ => closing
  rwa [List.append_nil] at whole

/-- A file that is there can be removed, and nothing else goes with it. -/
theorem remove_done {world : World} (located : world.files.locate world.current path = .ok place)
    (there : world.files.content? place ≠ none) :
    Writes (· = place) world (world.after (Host.remove path)) ∧
      (world.after (Host.remove path)).files.content? place = none := by
  rcases Option.ne_none_iff_exists'.mp there with ⟨content, found⟩
  have complete := FileSystem.content?_eq_some_iff.mp found
  have removed : world.files.removeFile world.current path = .ok (world.files.removeAt place) :=
    FileSystem.removeFile_eq_ok_iff.mpr ⟨place, content, located, complete, rfl⟩
  have leaves : world.after (Host.remove path) =
      { world with files := world.files.removeAt place } :=
    after_change [path] (fun files current => files.removeFile current path) removed
  have noDirectory : world.files.entry? place ≠ some .directory := by rw [complete]; nofun
  rw [leaves]
  exact ⟨⟨.removeAt noDirectory, rfl⟩, FileSystem.content?_removeAt_self (FileSystem.ne_root noDirectory)⟩

end Temporary

/-! ## Where a temporary file is made -/

/-- Where a file can be new without being promised anything: nothing stands there, and it has
the given name. -/
def Vacant (world : World) (name : String) (place : Place) : Prop :=
  world.files.entry? place = none ∧ place.getLast? = some name

/-- The name of the temporary file of a target. -/
def temporaryName (world : World) (target : Path) : String :=
  "." ++ target.name ++ "." ++ world.randomPart ++ ".tmp"

theorem temporaryName_ne_dots (world : World) (target : Path) :
    world.temporaryName target ≠ ".." := by
  intro same
  have length := congrArg String.length same
  simp only [temporaryName, String.length_append] at length
  have short : "..".length = 2 := rfl
  have ending : ".tmp".length = 4 := rfl
  omega

section Opening

variable {world : World} {target temporary : Path}

/-- The run that opens a temporary file beside a target. -/
def opening (target : Path) : Run (Except OsError Path) :=
  Host.openTemporary target.parent ("." ++ target.name ++ ".")

/-- The step of this run that makes the file. -/
def creation (world : World) (target : Path) : Run (Except OsError Unit) :=
  let path := world.temporaryPath target.parent ("." ++ target.name ++ ".")
  writingStep [path] fun files current => files.createFile current path

theorem value_opening (world : World) (target : Path) :
    world.value (opening target) = (world.value (world.creation target)).map fun _ =>
      world.temporaryPath target.parent ("." ++ target.name ++ ".") := by
  have asked : world.value (get : Run World) = world := rfl
  have stays : world.after (get : Run World) = world := rfl
  simp only [opening, Host.openTemporary, value_bind, asked, stays]
  rw [← creation]
  cases world.value (world.creation target) <;> rfl

theorem after_opening (world : World) (target : Path) :
    world.after (opening target) = world.after (world.creation target) := by
  have asked : world.value (get : Run World) = world := rfl
  have stays : world.after (get : Run World) = world := rfl
  simp only [opening, Host.openTemporary, after_bind, asked, stays]
  rw [← creation]
  cases world.value (world.creation target) <;> rfl

/-- The temporary file of a target is made at a vacant place, and it is empty. -/
theorem exists_vacant_of_opening (opened : world.value (opening target) = .ok temporary) :
    Exists fun place => world.Vacant (world.temporaryName target) place ∧
      Writes (· = place) world (world.after (opening target)) ∧
      (world.after (opening target)).files.locate (world.after (opening target)).current temporary =
        .ok place ∧
      FileSystem.entry? (world.after (opening target)).files place = some (.file []) := by
  have ends := writingStep_ends
    [world.temporaryPath target.parent ("." ++ target.name ++ ".")]
    (fun files current => files.createFile current
      (world.temporaryPath target.parent ("." ++ target.name ++ "."))) world
  rw [value_opening] at opened
  rw [after_opening]
  rcases Outcome.map_eq_ok_iff.mp opened with ⟨_, created, rfl⟩
  rcases FileSystem.createFile_eq_ok_iff.mp (ends.done created) with
    ⟨place, located, free, changed⟩
  have noDirectory : world.files.entry? place ≠ some .directory := by rw [free]; nofun
  have named : place.getLast? = some (world.temporaryName target) :=
    FileSystem.getLast?_of_locate rfl (world.temporaryName_ne_dots target) located
  have writes : Writes (· = place) world (world.after (world.creation target)) := by
    refine ends.writes fun other made => ?_
    rcases FileSystem.createFile_eq_ok_iff.mp made with ⟨there, again, _, rfl⟩
    cases located.symm.trans again
    exact .putAt noDirectory _
  refine ⟨place, ⟨free, named⟩, writes, writes.locate located, ?_⟩
  refine (congrArg (fun files => files.entry? place) changed).trans ?_
  exact FileSystem.entry?_putAt_self (FileSystem.ne_root noDirectory)

/-- A temporary file that cannot be made leaves no trace. -/
theorem opening_failed {error : OsError} (spared : Place -> Prop)
    (failed : world.value (opening target) = .error error) :
    Writes spared world (world.after (opening target)) := by
  have ends := writingStep_ends
    [world.temporaryPath target.parent ("." ++ target.name ++ ".")]
    (fun files current => files.createFile current
      (world.temporaryPath target.parent ("." ++ target.name ++ "."))) world
  rw [value_opening] at failed
  rw [after_opening]
  have stopped := Outcome.map_eq_error_iff.mp failed
  have same : (world.after (world.creation target)).files = world.files :=
    ends.failed error stopped
  exact ⟨by rw [same]; exact .refl _ world.files, ends.rest⟩

end Opening

end World
end RouteIR
