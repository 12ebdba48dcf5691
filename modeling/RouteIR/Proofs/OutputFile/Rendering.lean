import Mathlib.Logic.Function.Basic
import RouteIR.Proofs.OutputFile.Atomicity

namespace RouteIR
namespace World

/-!
# Rendered files

The files of a document are written one after the other below a directory.  Each goes to the
place to which its relative path leads there.  Two relative paths can lead to one place, and one
can lead to the directory itself, so what stands in the end is what was written last.  A path
that leads out of the directory ends the work, but what was written before stays.
-/

/-! ## The bytes of a text -/

/-- The bytes from an index on are listed behind those that are listed already. -/
theorem bytes_loop (bytes : ByteArray) (index : Nat) (taken : List UInt8) :
    ByteArray.toList.loop bytes index taken = taken.reverse ++ bytes.data.toList.drop index := by
  fun_induction ByteArray.toList.loop bytes index taken with
  | case1 index taken inside ih =>
      have inside : index < bytes.data.toList.length := inside
      have next : bytes.get! index = bytes.data.toList[index] := by
        rw [ByteArray.get!, Array.getElem_toList, getElem!_pos]
      rw [ih, List.drop_eq_getElem_cons inside, next, List.reverse_cons, List.append_assoc]
      rfl
  | case2 index taken outside =>
      have all : bytes.data.toList.length ≤ index := Nat.le_of_not_lt outside
      rw [List.drop_eq_nil_of_le all, List.append_nil]

/-- A text is known by its bytes. -/
theorem text_eq_of_bytes {left right : String}
    (same : left.toUTF8.toList = right.toUTF8.toList) : left = right := by
  rw [ByteArray.toList, ByteArray.toList, bytes_loop, bytes_loop] at same
  apply String.toByteArray_inj.mp
  apply ByteArray.ext
  exact Array.toList_inj.mp same

/-! ## Where files are put -/

/-- The resolved directory below which files are written. -/
def outputRoot (world : World) (directory : String) : Except OutputFile.WriteError Path :=
  (world.value (OutputFile.expandHome (.ofText directory))).map
    (Path.resolveFrom ⟨true, world.current⟩)

/-- The resolved path of a file below a directory. -/
def targetOf (root : Path) (relative : String) : Path := Path.resolveFrom root (.ofText relative)

/-- A file with its relative path and its text. -/
abbrev RenderedFile := String × String

/-- The last of some files that is put in a place. -/
def lastAt (root : Path) (files : List RenderedFile) (place : Place) : Option RenderedFile :=
  files.reverse.find? fun file => (targetOf root file.1).parts = place

/-- What places hold after some files were put there one after the other. -/
def deposit (root : Path) (files : List RenderedFile) (held : Place -> Option (List UInt8))
    (place : Place) : Option (List UInt8) :=
  match lastAt root files place with
  | some file => some file.2.toUTF8.toList
  | none => held place

section Deposit

variable {root : Path} {files : List RenderedFile} {held : Place -> Option (List UInt8)}
  {place : Place} {file : RenderedFile}

/-- The first file is put in its place before all others. -/
theorem deposit_cons (file : RenderedFile) (rest : List RenderedFile) :
    deposit root (file :: rest) held =
      deposit root rest
        (Function.update held (targetOf root file.1).parts (some file.2.toUTF8.toList)) := by
  funext place
  rw [deposit, deposit, lastAt, lastAt, List.reverse_cons, List.find?_append]
  cases rest.reverse.find? fun file => (targetOf root file.1).parts = place with
  | some later => rfl
  | none =>
      by_cases here : (targetOf root file.1).parts = place
      · subst here
        simp
      · simp [here, Function.update_of_ne (Ne.symm here)]

theorem mem_of_lastAt (last : lastAt root files place = some file) :
    file ∈ files ∧ (targetOf root file.1).parts = place := by
  rw [lastAt] at last
  exact ⟨List.mem_reverse.mp (List.mem_of_find?_eq_some last), by simpa using List.find?_some last⟩

theorem exists_lastAt (member : file ∈ files) :
    Exists fun last => lastAt root files (targetOf root file.1).parts = some last := by
  apply Option.isSome_iff_exists.mp
  apply List.find?_isSome.mpr
  exact ⟨file, List.mem_reverse.mpr member, decide_eq_true rfl⟩

theorem lastAt_eq_none_iff :
    lastAt root files place = none ↔
      forall file, file ∈ files -> (targetOf root file.1).parts ≠ place := by
  simp [lastAt]

theorem deposit_of_lastAt (last : lastAt root files place = some file) :
    deposit root files held place = some file.2.toUTF8.toList := by
  rw [deposit, last]

theorem deposit_of_forall_ne
    (elsewhere : forall file, file ∈ files -> (targetOf root file.1).parts ≠ place) :
    deposit root files held place = held place := by
  rw [deposit, lastAt_eq_none_iff.mpr elsewhere]

/-- Nothing changes just when each place that a file is put in held its text before. -/
theorem deposit_eq_iff :
    deposit root files held = held ↔
      forall place file, lastAt root files place = some file ->
        held place = some file.2.toUTF8.toList := by
  constructor
  · intro same place file last
    rw [← same, deposit_of_lastAt last]
  · intro known
    funext place
    cases last : lastAt root files place with
    | none => rw [deposit, last]
    | some file => rw [deposit_of_lastAt last, known place file last]

/-- Files that are put in one place have one text. -/
def Consistent (root : Path) (files : List RenderedFile) : Prop :=
  forall file, file ∈ files -> forall other, other ∈ files ->
    (targetOf root file.1).parts = (targetOf root other.1).parts -> file.2 = other.2

instance (root : Path) (files : List RenderedFile) : Decidable (Consistent root files) :=
  inferInstanceAs (Decidable (forall file, file ∈ files -> forall other, other ∈ files ->
    (targetOf root file.1).parts = (targetOf root other.1).parts -> file.2 = other.2))

/-- Each text stands in its place in the end just when no other has been put there. -/
theorem forall_deposit_iff :
    (forall file, file ∈ files ->
      deposit root files held (targetOf root file.1).parts = some file.2.toUTF8.toList) ↔
      Consistent root files := by
  constructor
  · intro whole file member other otherMember same
    have stands := whole other otherMember
    rw [← same, whole file member] at stands
    exact text_eq_of_bytes (Option.some.inj stands)
  · intro consistent file member
    have put : Exists fun last => lastAt root files (targetOf root file.1).parts = some last :=
      exists_lastAt member
    rcases put with ⟨last, found⟩
    rcases mem_of_lastAt found with ⟨lastMember, same⟩
    rw [deposit_of_lastAt found, consistent last lastMember file member same]

end Deposit

/-! ## Writing below a directory -/

section Writing

variable {world before middle after : World} {root : Path} {files : List RenderedFile}
  {directory relative text : String}

/-- A path that starts at the root needs no home directory. -/
theorem expandHome_done {path expanded : Path} (absolute : path.absolute = true)
    (done : world.value (OutputFile.expandHome path) = .ok expanded) : expanded = path := by
  have home : world.value Host.homeDirectory = world.home := rfl
  have known : path.expandHome? world.home = some path := by rw [Path.expandHome?, absolute]
  rw [OutputFile.expandHome, value_bind, asks_homeDirectory.leaves, home, known] at done
  by_cases nameable : path.isNameable = true
  · simp only [nameable] at done
    exact (Except.ok.inj done).symm
  · simp only [nameable] at done
    cases done

theorem expandHome_ne_escapes (path : Path) (relative : String) :
    world.value (OutputFile.expandHome path) ≠ .error (.escapes relative) := by
  rw [OutputFile.expandHome, value_bind]
  split
  · split <;> nofun
  · split <;> nofun

/-- To write a text is no reason for a path to lead out of a directory. -/
theorem write_ne_escapes (path : Path) (text relative : String) :
    world.value (OutputFile.write path text) ≠ .error (.escapes relative) := by
  intro same
  cases expanded : world.value (OutputFile.expandHome path) with
  | error refused =>
      rw [(write_refused expanded text).1] at same
      exact expandHome_ne_escapes path relative (expanded.trans same)
  | ok target =>
      rw [(write_expanded expanded text).1, Outcome.map_eq_error_iff,
        Outcome.mapError_eq_error_iff] at same
      rcases same with ⟨_, _, relabelled⟩
      cases relabelled

/-- A text that is written to a resolved path stands where its parts lead, and all other places
are as before. -/
theorem write_target {written : Path}
    (done : world.value (OutputFile.write (targetOf root relative) text) = .ok written) :
    written = targetOf root relative ∧
      (world.after (OutputFile.write (targetOf root relative) text)).files.content? =
        Function.update world.files.content? (targetOf root relative).parts
          (some text.toUTF8.toList) := by
  rcases write_done done with ⟨expanded, place, writes, located, content⟩
  cases expandHome_done rfl expanded
  cases FileSystem.eq_parts_of_locate located
  refine ⟨rfl, ?_⟩
  funext other
  by_cases here : other = (targetOf root relative).parts
  · rw [here, Function.update_self]
    exact content
  · rw [Function.update_of_ne here]
    exact writes.files.files other here

/-- How writing below a directory ends.  It comes to the end of the files, or one of them leads
out of the directory, or it is stopped by something else. -/
inductive BelowEnds (root : Path) : List RenderedFile -> World ->
    Except OutputFile.WriteError (List Path) -> World -> Prop
  | finished (world : World) : BelowEnds root [] world (.ok []) world
  | wrote {file : RenderedFile} {rest : List RenderedFile} {before middle after : World}
      {outcome : Except OutputFile.WriteError (List Path)}
      (within : Path.isWithin root (targetOf root file.1) = true)
      (put : middle.files.content? = Function.update before.files.content?
        (targetOf root file.1).parts (some file.2.toUTF8.toList))
      (ends : BelowEnds root rest middle outcome after) :
      BelowEnds root (file :: rest) before (outcome.map (targetOf root file.1 :: ·)) after
  | escaped {file : RenderedFile} {rest : List RenderedFile} {before : World}
      (outside : Path.isWithin root (targetOf root file.1) = false) :
      BelowEnds root (file :: rest) before (.error (.escapes file.1)) before
  | stopped {file : RenderedFile} {rest : List RenderedFile} {before after : World}
      {error : OutputFile.WriteError} (other : forall relative, error ≠ .escapes relative) :
      BelowEnds root (file :: rest) before (.error error) after

theorem writeBelow_ends (root : Path) (files : List RenderedFile) (world : World) :
    BelowEnds root files world (world.value (OutputFile.writeBelow root files))
      (world.after (OutputFile.writeBelow root files)) := by
  induction files generalizing world with
  | nil => exact .finished world
  | cons file rest ih =>
      rcases file with ⟨relative, text⟩
      rw [OutputFile.writeBelow]
      by_cases named : Path.isNameText relative = true
      · rw [if_neg (by simp [named])]
        by_cases within : Path.isWithin root (targetOf root relative) = true
        · rw [targetOf] at within
          rw [if_pos within, value_bind, after_bind]
          cases outcome : world.value
              (OutputFile.write (Path.resolveFrom root (.ofText relative)) text) with
          | error error =>
              refine .stopped fun escaping same => ?_
              exact write_ne_escapes _ text escaping (outcome.trans (congrArg _ same))
          | ok written =>
              rcases write_target outcome with ⟨rfl, put⟩
              exact .wrote within put (ih _)
        · rw [targetOf] at within
          rw [if_neg within]
          exact .escaped (Bool.eq_false_iff.mpr within)
      · rw [if_pos (by simp [named])]
        exact .stopped nofun

/-- Who comes to the end has put every file in its place, in order. -/
theorem BelowEnds.done {outcome : Except OutputFile.WriteError (List Path)}
    (ends : BelowEnds root files before outcome after) {written : List Path}
    (done : outcome = .ok written) :
    written = files.map (fun file => targetOf root file.1) ∧
      (forall file, file ∈ files -> Path.isWithin root (targetOf root file.1) = true) ∧
      after.files.content? = deposit root files before.files.content? := by
  induction ends generalizing written with
  | finished world =>
      cases done
      exact ⟨rfl, nofun, rfl⟩
  | wrote within put _ ih =>
      rcases Outcome.map_eq_ok_iff.mp done with ⟨others, finished, rfl⟩
      rcases ih finished with ⟨rfl, allWithin, held⟩
      refine ⟨rfl, List.forall_mem_cons.mpr ⟨within, allWithin⟩, ?_⟩
      rw [held, put, deposit_cons]
  | escaped => cases done
  | stopped => cases done

/-- Who comes to a path that leads out of the directory has put the files before it in their
places. -/
theorem BelowEnds.escapes {outcome : Except OutputFile.WriteError (List Path)}
    (ends : BelowEnds root files before outcome after)
    (escapes : outcome = .error (.escapes relative)) :
    Exists fun earlier => Exists fun text => Exists fun later =>
      files = earlier ++ (relative, text) :: later ∧
      Path.isWithin root (targetOf root relative) = false ∧
      (forall file, file ∈ earlier -> Path.isWithin root (targetOf root file.1) = true) ∧
      after.files.content? = deposit root earlier before.files.content? := by
  induction ends with
  | finished => cases escapes
  | @wrote file rest _ _ _ outcome within put _ ih =>
      cases outcome with
      | ok _ => cases escapes
      | error error =>
          rcases ih escapes with ⟨earlier, text, later, rfl, outside, allWithin, held⟩
          refine ⟨file :: earlier, text, later, rfl, outside,
            List.forall_mem_cons.mpr ⟨within, allWithin⟩, ?_⟩
          rw [held, put, deposit_cons]
  | @escaped file rest _ outside =>
      cases escapes
      exact ⟨[], file.2, rest, rfl, outside, nofun, rfl⟩
  | stopped other => exact absurd (Except.error.inj escapes) (other relative)

theorem writeAll_ends (directory : String) (files : List RenderedFile) (world : World) :
    (Exists fun root => world.outputRoot directory = .ok root ∧
      BelowEnds root files world (world.value (OutputFile.writeAll directory files))
        (world.after (OutputFile.writeAll directory files))) ∨
    Exists fun error => world.value (OutputFile.writeAll directory files) = .error error ∧
      forall relative, error ≠ .escapes relative := by
  rw [OutputFile.writeAll, value_bind, after_bind, (asks_expandHome _).leaves, outputRoot]
  cases expanded : world.value (OutputFile.expandHome (.ofText directory)) with
  | error error =>
      refine .inr ⟨error, rfl, fun relative same => ?_⟩
      exact expandHome_ne_escapes _ relative (expanded.trans (congrArg _ same))
  | ok path => exact .inl ⟨_, rfl, writeBelow_ends _ files world⟩

/-- What is expected of files that were written below a directory.  They stand strictly below it,
no other file has changed, and each holds its text. -/
structure Rendered (root : Path) (files : List RenderedFile) (before after : World) : Prop where
  below : forall file, file ∈ files ->
    root.parts <+: (targetOf root file.1).parts ∧ (targetOf root file.1).parts ≠ root.parts
  others : forall place, (forall file, file ∈ files -> (targetOf root file.1).parts ≠ place) ->
    after.files.content? place = before.files.content? place
  whole : forall file, file ∈ files ->
    after.files.content? (targetOf root file.1).parts = some file.2.toUTF8.toList

/-- Files are written as expected just when no path leads to the directory itself, and none leads
where another puts a different text. -/
theorem rendered_iff_of_writeAll {written : List Path}
    (done : before.value (OutputFile.writeAll directory files) = .ok written) :
    Exists fun root => before.outputRoot directory = .ok root ∧
      written = files.map (fun file => targetOf root file.1) ∧
      (before.after (OutputFile.writeAll directory files)).files.content? =
        deposit root files before.files.content? ∧
      (Rendered root files before (before.after (OutputFile.writeAll directory files)) ↔
        (forall file, file ∈ files -> (targetOf root file.1).parts ≠ root.parts) ∧
          Consistent root files) := by
  rcases writeAll_ends directory files before with ⟨root, resolved, ends⟩ | ⟨error, failed, _⟩
  · rcases ends.done done with ⟨targets, allWithin, held⟩
    refine ⟨root, resolved, targets, held, ?_⟩
    constructor
    · intro rendered
      refine ⟨fun file member => (rendered.below file member).2, ?_⟩
      apply forall_deposit_iff.mp
      rw [← held]
      exact rendered.whole
    · rintro ⟨apart, consistent⟩
      constructor
      · intro file member
        exact ⟨(Path.isWithin_iff.mp (allWithin file member)).2, apart file member⟩
      · intro place elsewhere
        rw [held, deposit_of_forall_ne elsewhere]
      · rw [held]
        exact forall_deposit_iff.mpr consistent
  · cases done.symm.trans failed

/-- A world with nothing in it but a current directory, and that is not made yet. -/
def voidWorld : World := World.bare ["w"] ⟨true, ["home"]⟩

theorem rendered_in_voidWorld :
    Rendered ⟨true, ["w", "gen"]⟩ [("a/b.txt", "1"), ("a/../c", "2")] voidWorld
      (voidWorld.after (OutputFile.writeAll "gen" [("a/b.txt", "1"), ("a/../c", "2")])) := by
  have done : voidWorld.value (OutputFile.writeAll "gen" [("a/b.txt", "1"), ("a/../c", "2")]) =
      .ok [⟨true, ["w", "gen", "a", "b.txt"]⟩, ⟨true, ["w", "gen", "c"]⟩] := by decide +kernel
  have resolved : voidWorld.outputRoot "gen" = .ok ⟨true, ["w", "gen"]⟩ := by decide +kernel
  rcases rendered_iff_of_writeAll done with ⟨root, same, _, _, rendered⟩
  cases resolved.symm.trans same
  exact rendered.mpr ⟨by decide +kernel, by decide +kernel⟩

/-- A dot leads to the directory itself, and in front of a path it leads nowhere else: so there is
a file in place of the directory, or one text for two. -/
theorem lost_in_voidWorld :
    voidWorld.outputRoot "out" = .ok ⟨true, ["w", "out"]⟩ ∧
      voidWorld.value (OutputFile.writeAll "out" [(".", "x")]) = .ok [⟨true, ["w", "out"]⟩] ∧
      (voidWorld.after (OutputFile.writeAll "out" [(".", "x")])).files.content? ["w", "out"] =
        some "x".toUTF8.toList ∧
      voidWorld.value (OutputFile.writeAll "out" [("./x", "1"), ("x", "2")]) =
        .ok [⟨true, ["w", "out", "x"]⟩, ⟨true, ["w", "out", "x"]⟩] ∧
      (voidWorld.after (OutputFile.writeAll "out" [("./x", "1"), ("x", "2")])).files.content?
        ["w", "out", "x"] = some "2".toUTF8.toList := by
  decide +kernel

/-- When a path leads out of the directory, the files before it have been written.  All files are
as before just when these stood there already, the last of each place with its text. -/
theorem unchanged_iff_of_escapes
    (escapes : before.value (OutputFile.writeAll directory files) = .error (.escapes relative)) :
    Exists fun root => Exists fun earlier => Exists fun text => Exists fun later =>
      before.outputRoot directory = .ok root ∧
      files = earlier ++ (relative, text) :: later ∧
      Path.isWithin root (targetOf root relative) = false ∧
      (forall file, file ∈ earlier -> Path.isWithin root (targetOf root file.1) = true) ∧
      (before.after (OutputFile.writeAll directory files)).files.content? =
        deposit root earlier before.files.content? ∧
      ((before.after (OutputFile.writeAll directory files)).files.content? =
          before.files.content? ↔
        forall place file, lastAt root earlier place = some file ->
          before.files.content? place = some file.2.toUTF8.toList) := by
  rcases writeAll_ends directory files before with ⟨root, resolved, ends⟩ | ⟨error, failed, other⟩
  · rcases ends.escapes escapes with ⟨earlier, text, later, split, outside, allWithin, held⟩
    refine ⟨root, earlier, text, later, resolved, split, outside, allWithin, held, ?_⟩
    rw [held]
    exact deposit_eq_iff
  · exact absurd (Except.error.inj (failed.symm.trans escapes)) (other relative)

/-- If the first path leads out of the directory, all files are as before. -/
theorem unchanged_in_voidWorld :
    (voidWorld.after (OutputFile.writeAll "out" [("../out2/x", "1"), ("y", "2")])).files.content? =
      voidWorld.files.content? := by
  have escapes : voidWorld.value (OutputFile.writeAll "out" [("../out2/x", "1"), ("y", "2")]) =
      .error (.escapes "../out2/x") := by decide +kernel
  have resolved : voidWorld.outputRoot "out" = .ok ⟨true, ["w", "out"]⟩ := by decide +kernel
  rcases unchanged_iff_of_escapes escapes with
    ⟨root, earlier, text, later, same, split, _, allWithin, _, unchanged⟩
  cases resolved.symm.trans same
  apply unchanged.mpr
  cases earlier with
  | nil => nofun
  | cons first rest =>
      cases (List.cons.inj split).1
      have within := allWithin ("../out2/x", "1") List.mem_cons_self
      exact absurd within (by decide +kernel)

/-- A file that was written before a path led out of the directory is left there. -/
theorem left_in_voidWorld :
    voidWorld.value (OutputFile.writeAll "out" [("a.txt", "1"), ("b/../../evil.txt", "x")]) =
        .error (.escapes "b/../../evil.txt") ∧
      voidWorld.files.content? ["w", "out", "a.txt"] = none ∧
      (voidWorld.after (OutputFile.writeAll "out"
        [("a.txt", "1"), ("b/../../evil.txt", "x")])).files.content? ["w", "out", "a.txt"] =
          some "1".toUTF8.toList := by
  decide +kernel

end Writing

end World
end RouteIR
