import RouteIR.Proofs.OutputFile

namespace RouteIR
namespace World

/-!
# All or nothing

An attempt to write a text has three ends.  It is done, and the target holds the text; it fails,
and all files are as before; or it fails and cannot clean up either.  The last happens when the
temporary file cannot be filled and cannot be closed after that: then it is not removed, and it
stays beside the target.
-/

section Installing

variable {world : World} {temporary target : Path} {place : Place} {text : String}

/-- Writing that changes no more files than are spared from a promise, in the end. -/
theorem Writes.narrow {spared wider : Place -> Prop} {before after : World}
    (writes : Writes wider before after)
    (same : forall place, wider place -> ¬ spared place ->
      after.files.content? place = before.files.content? place) :
    Writes spared before after := by
  refine ⟨⟨writes.files.directories, fun place kept => ?_⟩, writes.rest⟩
  by_cases inside : wider place
  · exact same place inside kept
  · exact writes.files.files place inside

/-- A temporary file that cannot be moved is removed. -/
theorem install_failed {error : OsError}
    (located : world.files.locate world.current temporary = .ok place)
    (there : world.files.content? place ≠ none)
    (failed : world.value (OutputFile.install temporary target) = .error error) :
    Writes (· = place) world (world.after (OutputFile.install temporary target)) ∧
      (world.after (OutputFile.install temporary target)).files.content? place = none := by
  have ends := writingStep_ends [temporary, target]
    (fun files current => files.replaceFile current temporary target) world
  simp only [OutputFile.install, value_bind, after_bind] at failed ⊢
  cases moved : world.value (Host.replace temporary target) with
  | error error =>
      have same : (world.after (Host.replace temporary target)).files = world.files :=
        ends.failed error moved
      have writes : Writes (· = place) world (world.after (Host.replace temporary target)) :=
        ⟨by rw [same]; exact .refl _ world.files, ends.rest⟩
      have still : (world.after (Host.replace temporary target)).files.content? place ≠ none := by
        rwa [same]
      rcases remove_done (writes.locate located) still with ⟨removes, gone⟩
      exact ⟨writes.trans removes, gone⟩
  | ok _ =>
      rw [moved] at failed
      cases failed

/-- A complete temporary file that is moved over its target is found there, and nowhere else. -/
theorem install_done
    (located : world.files.locate world.current temporary = .ok place)
    (complete : world.files.content? place = some text.toUTF8.toList)
    (done : world.value (OutputFile.install temporary target) = .ok ()) :
    Exists fun targetPlace =>
      Writes (fun other => other = place ∨ other = targetPlace) world
        (world.after (OutputFile.install temporary target)) ∧
      (world.after (OutputFile.install temporary target)).files.locate
        (world.after (OutputFile.install temporary target)).current target = .ok targetPlace ∧
      (world.after (OutputFile.install temporary target)).files.content? targetPlace =
        some text.toUTF8.toList ∧
      (place ≠ targetPlace ->
        (world.after (OutputFile.install temporary target)).files.content? place = none) := by
  have ends := writingStep_ends [temporary, target]
    (fun files current => files.replaceFile current temporary target) world
  simp only [OutputFile.install, value_bind, after_bind] at done ⊢
  cases moved : world.value (Host.replace temporary target) with
  | error error =>
      rw [moved] at done
      cases done
  | ok _ =>
      rcases FileSystem.Keeps.replaceFile located (FileSystem.content?_eq_some_iff.mp complete)
        (ends.done moved) with ⟨targetPlace, targetAt, keeps, content, free⟩
      have writes : Writes (fun other => other = place ∨ other = targetPlace) world
          (world.after (Host.replace temporary target)) := ⟨keeps, ends.rest⟩
      exact ⟨targetPlace, writes, writes.locate targetAt, content, free⟩

/-- A temporary file that is given up is removed if it can be closed, and stays if not. -/
theorem abandon_ends (error : OsError)
    (located : world.files.locate world.current temporary = .ok place)
    (there : world.files.content? place ≠ none) :
    (Exists fun reported => world.value (OutputFile.abandon temporary error) = .error reported) ∧
      Writes (· = place) world (world.after (OutputFile.abandon temporary error)) ∧
      ((world.after (OutputFile.abandon temporary error)).files.content? place = none ↔
        (spend 1 world.faults).1 = .ok ()) := by
  rcases Option.ne_none_iff_exists'.mp there with ⟨content, found⟩
  have closing : Completes 1 place (content ++ []) world (world.value (Host.close temporary))
      (world.after (Host.close temporary)) := adds_quietStep world content located found
  simp only [OutputFile.abandon, value_bind, after_bind]
  cases closed : world.value (Host.close temporary) with
  | error second =>
      refine ⟨⟨second, rfl⟩, closing.writes, fun gone => absurd gone closing.there, fun fate => ?_⟩
      cases (closing.ended.symm.trans closed).symm.trans fate
  | ok _ =>
      rcases remove_done (closing.writes.locate located) closing.there with ⟨removes, gone⟩
      exact ⟨⟨error, rfl⟩, closing.writes.trans removes,
        fun _ => closing.ended.symm.trans closed, fun _ => gone⟩

end Installing

/-! ## The ends of an attempt -/

section Writing

variable {world : World} {target : Path} {text : String}

theorem temporaryName_of_writes {spared : Place -> Prop} {before after : World}
    (writes : Writes spared before after) (target : Path) :
    after.temporaryName target = before.temporaryName target := by
  rw [temporaryName, temporaryName, writes.randomPart]

/-- What is vacant after directories were made was so before. -/
theorem vacant_of_writes {before after : World} {place : Place}
    (writes : Writes (fun _ => False) before after)
    (vacant : after.Vacant (after.temporaryName target) place) :
    before.Vacant (before.temporaryName target) place := by
  rw [temporaryName_of_writes writes] at vacant
  refine ⟨?_, vacant.2⟩
  cases found : before.files.entry? place with
  | none => rfl
  | some entry =>
      have free := vacant.1
      cases entry with
      | directory =>
          rw [writes.files.directories place found] at free
          cases free
      | file content =>
          have here := FileSystem.content?_eq_some_iff.mpr found
          rw [← writes.files.files place id, FileSystem.content?_eq_some_iff] at here
          rw [here] at free
          cases free

theorem Vacant.content? {name : String} {place : Place} (vacant : world.Vacant name place) :
    world.files.content? place = none := by
  rw [FileSystem.content?, vacant.1]

/-- A file can be made beside the target. -/
def Opens (before : World) (target : Path) : Prop :=
  before.value (OutputFile.ensureDirectory target.parent) = .ok () ∧
    Exists fun temporary =>
      (before.after (OutputFile.ensureDirectory target.parent)).value (opening target) =
        .ok temporary

/-- One of so many steps fails, and so does the step that follows it. -/
def FailsTwice (steps : Nat) (fates : List (Option OsError)) : Prop :=
  (Exists fun error => (spend steps fates).1 = .error error) ∧
    (spend 1 (spend steps fates).2).1 ≠ .ok ()

/-- A temporary file is made, it cannot be filled, and it cannot be closed after that. -/
def LeavesTemporary (before : World) (target : Path) : Prop :=
  before.Opens target ∧ FailsTwice 4 before.faults.tail

/-- How an attempt to write a file ends.  The temporary file is left where it cannot be closed
after a failure, and in no other case has any file changed but the target. -/
inductive WriteEnds (before : World) (target : Path) (text : String) :
    Except OsError Unit -> World -> Prop
  | done {place : Place} {after : World} (writes : Writes (· = place) before after)
      (located : after.files.locate after.current target = .ok place)
      (content : after.files.content? place = some text.toUTF8.toList)
      (cleared : ¬ before.LeavesTemporary target) : WriteEnds before target text (.ok ()) after
  | failed {error : OsError} {after : World} (writes : Writes (fun _ => False) before after)
      (cleared : ¬ before.LeavesTemporary target) : WriteEnds before target text (.error error) after
  | left {place : Place} {error : OsError} {after : World}
      (vacant : before.Vacant (before.temporaryName target) place)
      (writes : Writes (· = place) before after) (there : after.files.content? place ≠ none)
      (leaves : before.LeavesTemporary target) : WriteEnds before target text (.error error) after

/-- What follows once a temporary file is open. -/
def completion (temporary target : Path) (text : String) : Run (Except OsError Unit) := do
  match ← (OutputFile.fill temporary text).run with
  | .error error => OutputFile.abandon temporary error
  | .ok () => OutputFile.install temporary target

/-- What becomes of an open temporary file: it is moved over its target, removed, or left. -/
inductive CompletionEnds (before : World) (place : Place) (target : Path) (text : String) :
    Except OsError Unit -> World -> Prop
  | moved {targetPlace : Place} {after : World}
      (writes : Writes (fun other => other = place ∨ other = targetPlace) before after)
      (located : after.files.locate after.current target = .ok targetPlace)
      (content : after.files.content? targetPlace = some text.toUTF8.toList)
      (gone : place ≠ targetPlace -> after.files.content? place = none)
      (once : ¬ FailsTwice 4 before.faults) : CompletionEnds before place target text (.ok ()) after
  | removed {error : OsError} {after : World} (writes : Writes (· = place) before after)
      (gone : after.files.content? place = none) (once : ¬ FailsTwice 4 before.faults) :
      CompletionEnds before place target text (.error error) after
  | left {error : OsError} {after : World} (writes : Writes (· = place) before after)
      (there : after.files.content? place ≠ none) (twice : FailsTwice 4 before.faults) :
      CompletionEnds before place target text (.error error) after

theorem completion_ends {temporary : Path} {place : Place}
    (located : world.files.locate world.current temporary = .ok place)
    (isEmpty : world.files.content? place = some []) :
    CompletionEnds world place target text (world.value (completion temporary target text))
      (world.after (completion temporary target text)) := by
  have filling := adds_fill text world [] located isEmpty
  have there := filling.writes.locate located
  simp only [completion, value_bind, after_bind]
  cases filled : world.value (OutputFile.fill temporary text).run with
  | error error =>
      have first : (spend 4 world.faults).1 = .error error := filling.ended.symm.trans filled
      rcases abandon_ends error there filling.there with ⟨⟨reported, fails⟩, gives, removed⟩
      have writes := filling.writes.trans gives
      rw [filling.faults] at removed
      simp only [fails]
      by_cases closes : (spend 1 (spend 4 world.faults).2).1 = .ok ()
      · exact .removed writes (removed.mpr closes) fun twice => twice.2 closes
      · exact .left writes (fun gone => closes (removed.mp gone)) ⟨⟨error, first⟩, closes⟩
  | ok _ =>
      have once : ¬ FailsTwice 4 world.faults := by
        rintro ⟨⟨error, first⟩, _⟩
        cases (filling.ended.symm.trans filled).symm.trans first
      cases installed : (world.after (OutputFile.fill temporary text).run).value
          (OutputFile.install temporary target) with
      | error error =>
          rcases install_failed there filling.there installed with ⟨gives, gone⟩
          exact .removed (filling.writes.trans gives) gone once
      | ok _ =>
          rcases install_done there (filling.done filled) installed with
            ⟨targetPlace, moves, targetAt, content, gone⟩
          exact .moved ((filling.writes.mono fun _ => .inl).trans moves) targetAt content gone once

/-- An attempt whose temporary file was made where nothing stood ends as the work on that file
does, and only a file that is left tells of it. -/
theorem CompletionEnds.writeEnds {before started after : World} {place : Place}
    {outcome : Except OsError Unit}
    (ends : CompletionEnds started place target text outcome after)
    (vacant : before.Vacant (before.temporaryName target) place)
    (begun : Writes (· = place) before started)
    (leaves : before.LeavesTemporary target ↔ FailsTwice 4 started.faults) :
    WriteEnds before target text outcome after := by
  cases ends with
  | @moved targetPlace _ writes located content gone once =>
      refine .done ?_ located content (once ∘ leaves.mp)
      apply ((begun.mono fun _ => .inl).trans writes).narrow
      rintro other (rfl | rfl) differs
      · exact (gone differs).trans vacant.content?.symm
      · exact absurd rfl differs
  | removed writes gone once =>
      refine .failed ?_ (once ∘ leaves.mp)
      apply (begun.trans writes).narrow
      rintro _ rfl _
      exact gone.trans vacant.content?.symm
  | left writes there twice => exact .left vacant (begun.trans writes) there (leaves.mpr twice)

theorem writeAtomically_ends (target : Path) (text : String) (world : World) :
    WriteEnds world target text (world.value (OutputFile.writeAtomically target text))
      (world.after (OutputFile.writeAtomically target text)) := by
  have prepared : Writes (fun _ => False) world
      (world.after (OutputFile.ensureDirectory target.parent)) :=
    ensureDirectory_writes target.parent world
  have untouched := faults_ensureDirectory target.parent world
  simp only [OutputFile.writeAtomically, value_bind, after_bind]
  cases made : world.value (OutputFile.ensureDirectory target.parent) with
  | error error =>
      refine .failed prepared fun leaves => ?_
      cases made.symm.trans leaves.1.1
  | ok _ =>
      simp only [value_bind, after_bind]
      rw [← opening]
      cases opened :
          (world.after (OutputFile.ensureDirectory target.parent)).value (opening target) with
      | error error =>
          refine .failed (prepared.trans (opening_failed (fun _ => False) opened)) ?_
          rintro ⟨⟨_, _, opens⟩, _⟩
          cases opened.symm.trans opens
      | ok temporary =>
          rcases exists_vacant_of_opening opened with ⟨place, vacant, writes, located, isEmpty⟩
          have ends : CompletionEnds _ place target text _ _ := completion_ends located
            (FileSystem.content?_eq_some_iff.mpr isEmpty)
          refine ends.writeEnds (vacant_of_writes prepared vacant)
            ((prepared.mono fun _ => False.elim).trans writes) ?_
          rw [after_opening, creation, faults_writingStep, untouched]
          exact ⟨And.right, fun twice => ⟨⟨made, temporary, opened⟩, twice⟩⟩

/-- What is promised of an attempt to write a text, whatever fails.  If it is done, the target
holds the text and no other file has changed; if it fails, no file has changed at all. -/
structure Atomic (before : World) (target : Path) (text : String) (outcome : Except OsError Unit)
    (after : World) : Prop where
  done : outcome = .ok () -> Exists fun place =>
    Writes (· = place) before after ∧
      after.files.locate after.current target = .ok place ∧
      after.files.content? place = some text.toUTF8.toList
  failed : forall error, outcome = .error error -> Writes (fun _ => False) before after

/-- The promise is kept unless a temporary file can neither be filled nor closed.  Then the
attempt fails, and this file is all that it leaves. -/
theorem atomic_iff_not_leavesTemporary (before : World) (target : Path) (text : String) :
    (Atomic before target text (before.value (OutputFile.writeAtomically target text))
        (before.after (OutputFile.writeAtomically target text)) ↔
      ¬ before.LeavesTemporary target) ∧
    (before.LeavesTemporary target ->
      (Exists fun error =>
        before.value (OutputFile.writeAtomically target text) = .error error) ∧
      Exists fun place => before.Vacant (before.temporaryName target) place ∧
        Writes (· = place) before (before.after (OutputFile.writeAtomically target text)) ∧
        (before.after (OutputFile.writeAtomically target text)).files.content? place ≠ none) := by
  have ends := writeAtomically_ends target text before
  generalize before.value (OutputFile.writeAtomically target text) = outcome at ends
  generalize before.after (OutputFile.writeAtomically target text) = after at ends
  cases ends with
  | done writes located content cleared =>
      exact ⟨⟨fun _ => cleared, fun _ => ⟨fun _ => ⟨_, writes, located, content⟩, nofun⟩⟩,
        fun leaves => absurd leaves cleared⟩
  | failed writes cleared =>
      exact ⟨⟨fun _ => cleared, fun _ => ⟨nofun, fun _ _ => writes⟩⟩,
        fun leaves => absurd leaves cleared⟩
  | left vacant writes there leaves =>
      refine ⟨⟨fun atomic => ?_, fun cleared => absurd leaves cleared⟩,
        fun _ => ⟨⟨_, rfl⟩, _, vacant, writes, there⟩⟩
      have unchanged := (atomic.failed _ rfl).files.files
      exact absurd ((unchanged _ id).trans vacant.content?) there

/-- The fault of a full disk. -/
def diskFull : OsError := ⟨28, "No space left on device", []⟩

/-- A world on a full disk: a file can still be made and its text taken, but not passed on, so that
the file cannot be closed either. -/
def fullWorld : World :=
  { World.bare ["w"] ⟨true, ["home"]⟩ with
    files := ⟨[(["w"], .directory), (["w", "o"], .file "old".toUTF8.toList)]⟩
    faults := [none, none, some diskFull, some diskFull] }

/-- On a full disk the attempt fails and keeps the target, but it leaves its temporary file. -/
theorem temporary_left_in_fullWorld :
    fullWorld.value (OutputFile.writeAtomically ⟨false, ["o"]⟩ "new") = .error diskFull ∧
      (fullWorld.after (OutputFile.writeAtomically ⟨false, ["o"]⟩ "new")).files.content? ["w", "o"] =
        some "old".toUTF8.toList ∧
      fullWorld.files.content? ["w", ".o.0.tmp"] = none ∧
      (fullWorld.after (OutputFile.writeAtomically ⟨false, ["o"]⟩ "new")).files.content?
        ["w", ".o.0.tmp"] = some "new".toUTF8.toList := by
  decide +kernel

/-! ## Writing to a path -/

theorem asks_expandHome (path : Path) :
    Asks (OutputFile.expandHome path : Run (Except OutputFile.WriteError Path)) := by
  refine asks_homeDirectory.bind fun home => ?_
  split
  · exact asks_pure _
  · split <;> exact asks_pure _

/-- A text whose path cannot be expanded is not written anywhere. -/
theorem write_refused {path : Path} {refused : OutputFile.WriteError}
    (expanded : world.value (OutputFile.expandHome path) = .error refused) (text : String) :
    world.value (OutputFile.write path text) = .error refused ∧
      world.after (OutputFile.write path text) = world := by
  rw [OutputFile.write, value_bind, after_bind, (asks_expandHome path).leaves, expanded]
  exact ⟨rfl, rfl⟩

/-- To write to a path is to write to the path that it expands to. -/
theorem write_expanded {path target : Path}
    (expanded : world.value (OutputFile.expandHome path) = .ok target) (text : String) :
    world.value (OutputFile.write path text) =
        ((world.value (OutputFile.writeAtomically target text)).mapError (.failed target)).map
          (fun _ => target) ∧
      world.after (OutputFile.write path text) =
        world.after (OutputFile.writeAtomically target text) := by
  rw [OutputFile.write, value_bind, after_bind, (asks_expandHome path).leaves, expanded]
  simp only [value_bind, after_bind]
  cases world.value (OutputFile.writeAtomically target text) <;> exact ⟨rfl, rfl⟩

/-- A text that is not written is lost on the way to its target or, if it has none, at once. -/
theorem write_failed {path : Path} {error : OutputFile.WriteError}
    (failed : world.value (OutputFile.write path text) = .error error) :
    (Exists fun target => world.value (OutputFile.expandHome path) = .ok target ∧
      Writes (world.Vacant (world.temporaryName target)) world
        (world.after (OutputFile.write path text))) ∨
    (forall target, world.value (OutputFile.expandHome path) ≠ .ok target) ∧
      world.after (OutputFile.write path text) = world := by
  cases expanded : world.value (OutputFile.expandHome path) with
  | error refused => exact .inr ⟨nofun, (write_refused expanded text).2⟩
  | ok target =>
      rcases write_expanded expanded text with ⟨outcome, leaves⟩
      rw [outcome, Outcome.map_eq_error_iff, Outcome.mapError_eq_error_iff] at failed
      rcases failed with ⟨reason, failed, _⟩
      have ends := writeAtomically_ends target text world
      rw [failed, ← leaves] at ends
      refine .inl ⟨target, rfl, ?_⟩
      cases ends with
      | failed writes => exact writes.mono nofun
      | left vacant writes => exact writes.mono fun _ same => same ▸ vacant

/-- A text that is written stands in the file to which the path leads, and no other file has
changed. -/
theorem write_done {path written : Path}
    (done : world.value (OutputFile.write path text) = .ok written) :
    world.value (OutputFile.expandHome path) = .ok written ∧ Exists fun place =>
      Writes (· = place) world (world.after (OutputFile.write path text)) ∧
      (world.after (OutputFile.write path text)).files.locate
        (world.after (OutputFile.write path text)).current written = .ok place ∧
      (world.after (OutputFile.write path text)).files.content? place =
        some text.toUTF8.toList := by
  cases expanded : world.value (OutputFile.expandHome path) with
  | error refused => cases done.symm.trans (write_refused expanded text).1
  | ok target =>
      rcases write_expanded expanded text with ⟨outcome, leaves⟩
      rw [outcome, Outcome.map_eq_ok_iff] at done
      rcases done with ⟨_, done, rfl⟩
      have ends := writeAtomically_ends target text world
      rw [Outcome.mapError_eq_ok_iff.mp done, ← leaves] at ends
      cases ends with
      | done writes located content => exact ⟨rfl, _, writes, located, content⟩

/-- No file has changed that there was, and none is new under the name that a path ends in. -/
def Unharmed (before after : World) (name : String) : Prop :=
  forall place, ( before.files.entry? place ≠ none ∨ place.getLast? = some name) ->
    after.files.content? place = before.files.content? place

theorem temporaryName_ne_name (world : World) (target : Path) :
    world.temporaryName target ≠ target.name := by
  intro same
  have length := congrArg String.length same
  simp only [temporaryName, String.length_append] at length
  have ending : ".tmp".length = 4 := rfl
  omega

theorem Writes.unharmed {before after : World}
    (writes : Writes (before.Vacant (before.temporaryName target)) before after) :
    before.Unharmed after target.name := by
  rintro place known
  refine writes.files.files place fun vacant => ?_
  rcases known with there | named
  · exact there vacant.1
  · rw [vacant.2] at named
    exact before.temporaryName_ne_name target (Option.some.inj named)

end Writing

end World
end RouteIR
