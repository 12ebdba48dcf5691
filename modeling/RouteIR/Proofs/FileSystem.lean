import RouteIR.FileSystem
import RouteIR.Proofs.Keyed
import RouteIR.Proofs.Outcome
import RouteIR.Proofs.Path

namespace RouteIR
namespace FileSystem

/-!
# Changes of a file system

Each change puts an entry at one place or takes one away, and leaves all other places as they
are.  A change succeeds under a condition on the entry that stands there before.  Files come
and go, but nothing removes a directory, so a path that can be followed stays so and keeps
leading to its place.
-/

variable {files : FileSystem}

theorem entry?_removeAt (place other : Place) :
    entry? (files.removeAt place) other =
      if other = [] then some .directory
      else if other = place then none else files.entry? other := by
  by_cases root : other = []
  · rw [ entry?, if_pos root, if_pos root]
  · have kept := Keyed.lookup_filter (fun key => decide (key ≠ place)) files.entries other
    rw [ entry?, if_neg root, if_neg root, removeAt, kept, entry?, if_neg root]
    by_cases here : other = place <;> simp [here]

theorem entry?_putAt (place other : Place) (entry : Entry) :
    entry? (files.putAt place entry) other =
      if other = [] then some .directory
      else if other = place then some entry else files.entry? other := by
  by_cases root : other = []
  · rw [ entry?, if_pos root, if_pos root]
  · rw [ entry?, if_neg root, if_neg root, putAt, List.lookup_cons]
    by_cases here : other = place
    · rw [if_pos here, here, beq_self_eq_true]
    · rw [if_neg here, beq_false_of_ne here]
      have removed : entry? (files.removeAt place) other = _ := entry?_removeAt place other
      rwa [ entry?, if_neg root, if_neg root, if_neg here] at removed

theorem entry?_root : files.entry? [] = some .directory := rfl

theorem entry?_putAt_of_ne {place other : Place} {entry : Entry} (differs : other ≠ place) :
    entry? (files.putAt place entry) other = files.entry? other := by
  rw [entry?_putAt, if_neg differs, ite_eq_right_iff]
  rintro rfl
  exact entry?_root.symm

theorem entry?_removeAt_of_ne {place other : Place} (differs : other ≠ place) :
    entry? (files.removeAt place) other = files.entry? other := by
  rw [entry?_removeAt, if_neg differs, ite_eq_right_iff]
  rintro rfl
  exact entry?_root.symm

theorem ne_root {place : Place} (noDirectory : files.entry? place ≠ some .directory) :
    place ≠ [] := by
  rintro rfl
  exact noDirectory rfl

theorem entry?_putAt_self {place : Place} {entry : Entry} (root : place ≠ []) :
    entry? (files.putAt place entry) place = some entry := by
  rw [entry?_putAt, if_neg root, if_pos rfl]

/-! ## What each change does -/

variable {changed : FileSystem} {current : Place} {path : Path}

theorem makeDirectory_eq_ok_iff :
    files.makeDirectory current path = .ok changed ↔
      Exists fun place => files.locate current path = .ok place ∧ files.entry? place = none ∧
        changed = files.putAt place .directory := by
  rw [makeDirectory, Outcome.bind_eq_ok_iff]
  refine exists_congr fun place => and_congr_right fun _ => ?_
  cases found : files.entry? place with
  | none => exact ⟨fun made => ⟨rfl, (Except.ok.inj made).symm⟩, fun made => made.2 ▸ rfl⟩
  | some entry => simp

theorem createFile_eq_ok_iff :
    files.createFile current path = .ok changed ↔
      Exists fun place => files.locate current path = .ok place ∧ files.entry? place = none ∧
        changed = files.putAt place (.file []) := by
  rw [createFile, Outcome.bind_eq_ok_iff]
  refine exists_congr fun place => and_congr_right fun _ => ?_
  cases found : files.entry? place with
  | none => exact ⟨fun made => ⟨rfl, (Except.ok.inj made).symm⟩, fun made => made.2 ▸ rfl⟩
  | some entry => simp

theorem append_eq_ok_iff {content : List UInt8} :
    files.append current path content = .ok changed ↔
      Exists fun place => Exists fun before => files.locate current path = .ok place ∧
        files.entry? place = some (.file before) ∧
        changed = files.putAt place (.file (before ++ content)) := by
  rw [append, Outcome.bind_eq_ok_iff]
  refine exists_congr fun place => ?_
  rw [exists_and_left]
  refine and_congr_right fun _ => ?_
  cases found : files.entry? place with
  | none => simp
  | some entry =>
      cases entry with
      | directory => simp
      | file before =>
          constructor
          · exact fun made => ⟨before, rfl, (Except.ok.inj made).symm⟩
          · rintro ⟨_, same, rfl⟩
            cases same
            rfl

theorem removeFile_eq_ok_iff :
    files.removeFile current path = .ok changed ↔
      Exists fun place => Exists fun content => files.locate current path = .ok place ∧
        files.entry? place = some (.file content) ∧ changed = files.removeAt place := by
  rw [removeFile, Outcome.bind_eq_ok_iff]
  refine exists_congr fun place => ?_
  rw [exists_and_left]
  refine and_congr_right fun _ => ?_
  cases found : files.entry? place with
  | none => simp
  | some entry =>
      cases entry with
      | directory => simp
      | file before =>
          constructor
          · exact fun made => ⟨before, rfl, (Except.ok.inj made).symm⟩
          · rintro ⟨_, _, rfl⟩
            rfl

/-- What moving a file over another needs and does. -/
theorem replaceFile_eq_ok {source target : Path}
    (replaced : files.replaceFile current source target = .ok changed) :
    Exists fun sourcePlace => Exists fun targetPlace => Exists fun content =>
      files.locate current source = .ok sourcePlace ∧
      files.locate current target = .ok targetPlace ∧ isUnnamed target = false ∧
      files.entry? sourcePlace = some (.file content) ∧
      files.entry? targetPlace ≠ some .directory ∧
      changed = if sourcePlace = targetPlace then files
        else (files.removeAt sourcePlace).putAt targetPlace (.file content) := by
  rw [replaceFile] at replaced
  simp only [Outcome.bind_eq_ok_iff] at replaced
  rcases replaced with ⟨sourcePlace, sourceAt, targetPlace, targetAt, replaced⟩
  by_cases unnamed : isUnnamed target = true
  · rw [if_pos unnamed] at replaced
    cases replaced
  · rw [if_neg unnamed] at replaced
    refine ⟨sourcePlace, targetPlace, ?_⟩
    cases found : files.entry? sourcePlace with
    | none => simp [found] at replaced
    | some entry =>
        cases entry with
        | directory => simp [found] at replaced
        | file content =>
            refine ⟨content, sourceAt, targetAt, by simpa using unnamed, rfl, ?_, ?_⟩
            · intro isDirectory
              simp [found, isDirectory] at replaced
            · cases before : files.entry? targetPlace with
              | none =>
                  simp only [found, before] at replaced
                  split at replaced <;> cases replaced <;> simp_all
              | some entry =>
                  cases entry with
                  | directory => simp [found, before] at replaced
                  | file old =>
                      simp only [found, before] at replaced
                      split at replaced <;> cases replaced <;> simp_all

/-! ## What stays -/

theorem content?_eq_some_iff {place : Place} {content : List UInt8} :
    files.content? place = some content ↔ files.entry? place = some (.file content) := by
  rw [content?]
  split
  · next found => rw [found, Option.some.injEq, Option.some.injEq, Entry.file.injEq]
  · next other => exact ⟨nofun, fun found => absurd found (other content)⟩

theorem content?_congr {others : FileSystem} {place : Place}
    (same : files.entry? place = others.entry? place) :
    files.content? place = others.content? place := by
  rw [content?, content?, same]

theorem content?_removeAt_self {place : Place} (root : place ≠ []) :
    content? (files.removeAt place) place = none := by
  rw [content?, entry?_removeAt, if_neg root, if_pos rfl]

theorem follow_cons_eq_ok_iff {start place : Place} {part : String} {rest : List String} :
    files.follow start (part :: rest) = .ok place ↔
      files.entry? start = some .directory ∧
        (part = ".." ∧ files.follow start.dropLast rest = .ok place ∨
          part ≠ ".." ∧ part.utf8ByteSize ≤ nameLimit ∧
            files.follow (start ++ [part]) rest = .ok place) := by
  rw [follow]
  cases found : files.entry? start with
  | none => simp
  | some entry =>
      cases entry with
      | file content => simp
      | directory =>
          by_cases up : part = ".."
          · simp [up]
          · by_cases long : nameLimit < part.utf8ByteSize
            · simp [up, long, Nat.not_le_of_lt long]
            · simp [up, long, Nat.le_of_not_lt long]

theorem locate_eq_ok_iff {place : Place} :
    files.locate current path = .ok place ↔
      path.text.utf8ByteSize ≤ pathLimit ∧
        files.follow (if path.absolute then [] else current) path.parts = .ok place := by
  rw [locate]
  by_cases long : pathLimit < path.text.utf8ByteSize
  · simp [long, Nat.not_le_of_lt long]
  · simp [long, Nat.le_of_not_lt long]

/-- A path of which every directory stays leads to the same place. -/
theorem locate_of_directories {others : FileSystem}
    (directories : forall place, files.entry? place = some .directory ->
      others.entry? place = some .directory)
    {place : Place} (located : files.locate current path = .ok place) :
    others.locate current path = .ok place := by
  rcases locate_eq_ok_iff.mp located with ⟨short, followed⟩
  refine locate_eq_ok_iff.mpr ⟨short, ?_⟩
  generalize path.parts = parts at followed
  generalize (if path.absolute then [] else current) = start at followed
  induction parts generalizing start with
  | nil => exact followed
  | cons part rest ih =>
      rcases follow_cons_eq_ok_iff.mp followed with ⟨isDirectory, up | down⟩
      · exact follow_cons_eq_ok_iff.mpr
          ⟨directories start isDirectory, .inl ⟨up.1, ih _ up.2⟩⟩
      · exact follow_cons_eq_ok_iff.mpr
          ⟨directories start isDirectory, .inr ⟨down.1, down.2.1, ih _ down.2.2⟩⟩

/-- A path with a name leads to a place of this name. -/
theorem getLast?_of_locate {place : Place} {name : String} {front : List String}
    (ends : path.parts = front ++ [name]) (named : name ≠ "..")
    (located : files.locate current path = .ok place) : place.getLast? = some name := by
  rcases locate_eq_ok_iff.mp located with ⟨_, followed⟩
  rw [ends] at followed
  clear ends located
  generalize (if path.absolute then [] else current) = start at followed
  induction front generalizing start with
  | nil =>
      rcases follow_cons_eq_ok_iff.mp followed with ⟨_, up | down⟩
      · exact absurd up.1 named
      · rw [← Except.ok.inj down.2.2]
        exact List.getLast?_concat
  | cons part rest ih =>
      rcases follow_cons_eq_ok_iff.mp followed with ⟨_, up | down⟩
      · exact ih _ up.2
      · exact ih _ down.2.2

/-- Whoever can follow a path gets where its steps lead, one after the other. -/
theorem eq_foldl_step_of_locate {place : Place} (located : files.locate current path = .ok place) :
    place = path.parts.foldl Path.step (if path.absolute then [] else current) := by
  rcases locate_eq_ok_iff.mp located with ⟨_, followed⟩
  clear located
  generalize path.parts = parts at followed
  generalize (if path.absolute then [] else current) = start at followed
  induction parts generalizing start with
  | nil => exact (Except.ok.inj followed).symm
  | cons part rest ih =>
      rw [List.foldl_cons]
      rcases follow_cons_eq_ok_iff.mp followed with ⟨_, up | down⟩
      · rw [ih _ up.2, Path.step, if_pos up.1]
      · rw [ih _ down.2.2, Path.step, if_neg down.1]

/-- A resolved path leads to the place that its parts name, if it leads anywhere. -/
theorem eq_parts_of_locate {base : Path} {place : Place}
    (located : files.locate current (Path.resolveFrom base path) = .ok place) :
    place = (Path.resolveFrom base path).parts :=
  (eq_foldl_step_of_locate located).trans (Path.collapse_collapse _)

/-- What may happen to files when some places are spared from all promises: every directory
stays one, and every other place has the file that it had, or none as before. -/
structure Keeps (spared : Place -> Prop) (before after : FileSystem) : Prop where
  directories : forall place, before.entry? place = some .directory ->
    after.entry? place = some .directory
  files : forall place, ¬ spared place -> after.content? place = before.content? place

namespace Keeps

variable {spared wider : Place -> Prop} {before middle after : FileSystem}

theorem refl (spared : Place -> Prop) (files : FileSystem) : files.Keeps spared files :=
  ⟨fun _ same => same, fun _ _ => rfl⟩

theorem trans (first : before.Keeps spared middle) (second : middle.Keeps spared after) :
    before.Keeps spared after where
  directories place same := second.directories place (first.directories place same)
  files place kept := (second.files place kept).trans (first.files place kept)

theorem mono (keeps : before.Keeps spared after)
    (within : forall place, spared place -> wider place) : before.Keeps wider after where
  directories := keeps.directories
  files place kept := keeps.files place fun hit => kept (within place hit)

/-- A place that is no directory can be given a file, if no promise was made for it. -/
theorem putAt {place : Place} (noDirectory : files.entry? place ≠ some .directory)
    (content : List UInt8) : files.Keeps (· = place) (files.putAt place (.file content)) where
  directories other same := by
    have differs : other ≠ place := fun here => noDirectory (here ▸ same)
    rw [entry?_putAt_of_ne differs, same]
  files other kept := content?_congr (entry?_putAt_of_ne kept)

theorem removeAt {place : Place} (noDirectory : files.entry? place ≠ some .directory) :
    files.Keeps (· = place) (files.removeAt place) where
  directories other same := by
    have differs : other ≠ place := fun here => noDirectory (here ▸ same)
    rw [entry?_removeAt_of_ne differs, same]
  files other kept := content?_congr (entry?_removeAt_of_ne kept)

theorem makeDirectory (made : files.makeDirectory current path = .ok changed) :
    files.Keeps spared changed := by
  rcases makeDirectory_eq_ok_iff.mp made with ⟨place, _, free, rfl⟩
  have root := ne_root (by rw [free]; nofun)
  constructor
  · intro other same
    by_cases here : other = place
    · rw [here, entry?_putAt_self root]
    · rw [entry?_putAt_of_ne here, same]
  · intro other _
    by_cases here : other = place
    · rw [here, content?, content?, entry?_putAt_self root, free]
    · exact content?_congr (entry?_putAt_of_ne here)

/-- Where a file was moved, its new place has its content, its old place is free, and no other
place has changed. -/
theorem replaceFile {source target : Path} {place : Place} {content : List UInt8}
    (located : files.locate current source = .ok place)
    (complete : files.entry? place = some (.file content))
    (replaced : files.replaceFile current source target = .ok changed) :
    Exists fun targetPlace => files.locate current target = .ok targetPlace ∧
      files.Keeps (fun other => other = place ∨ other = targetPlace) changed ∧
      changed.content? targetPlace = some content ∧
      (place ≠ targetPlace -> changed.content? place = none) := by
  rcases replaceFile_eq_ok replaced with
    ⟨sourcePlace, targetPlace, moved, sourceAt, targetAt, _, found, noDirectory, rfl⟩
  cases located.symm.trans sourceAt
  cases complete.symm.trans found
  refine ⟨targetPlace, targetAt, ?_⟩
  split
  · next same =>
      subst same
      exact ⟨.refl _ files, content?_eq_some_iff.mpr complete, fun differs => absurd rfl differs⟩
  · next differs =>
      have taken : files.Keeps (· = place) (files.removeAt place) :=
        .removeAt (by rw [complete]; nofun)
      have free : entry? (files.removeAt place) targetPlace ≠ some .directory := by
        rwa [entry?_removeAt_of_ne (Ne.symm differs)]
      refine ⟨(taken.mono fun _ => .inl).trans ((Keeps.putAt free content).mono fun _ => .inr),
        content?_eq_some_iff.mpr (entry?_putAt_self (ne_root noDirectory)), fun _ => ?_⟩
      rw [content?_congr (entry?_putAt_of_ne differs)]
      exact content?_removeAt_self (ne_root (by rw [complete]; nofun))

end Keeps
end FileSystem
end RouteIR
