import RouteIR.Proofs.FileSystem
import RouteIR.Proofs.Outcome.Agreement

namespace RouteIR

namespace FileSystem

/-!
# File systems that differ in one file

Two file systems are alike when they differ in the content of one file at most, and the file has
in each the content that it had at first.  All paths lead to the same places in both, and what
is done to both has the same outcome, unless it takes up the content of that file.
-/

/-- The same entries at all places but one, where each file system has its own content or both
have the same entry. -/
structure Alike (place : Place) (first second : List UInt8) (left right : FileSystem) : Prop where
  elsewhere : forall other, other ≠ place -> left.entry? other = right.entry? other
  here : left.entry? place = right.entry? place ∨
    left.entry? place = some (.file first) ∧ right.entry? place = some (.file second)

namespace Alike

variable {place : Place} {first second : List UInt8} {left right : FileSystem}

/-- What can stand at a place of both. -/
theorem cases (alike : Alike place first second left right) (other : Place) :
    left.entry? other = right.entry? other ∨
      left.entry? other = some (.file first) ∧ right.entry? other = some (.file second) := by
  by_cases here : other = place
  · rw [here]
    exact alike.here
  · exact .inl (alike.elsewhere other here)

theorem locate (alike : Alike place first second left right) (current : Place) (path : Path) :
    left.locate current path = right.locate current path := by
  rw [FileSystem.locate, FileSystem.locate]
  generalize (if path.absolute then [] else current) = start
  generalize path.parts = parts
  have followed : left.follow start parts = right.follow start parts := by
    induction parts generalizing start with
    | nil => rfl
    | cons part rest ih =>
        rw [follow, follow]
        rcases alike.cases start with same | ⟨here, there⟩
        · simp only [same, ih]
        · simp only [here, there]
  rw [followed]

theorem putAt (alike : Alike place first second left right) (other : Place) (entry : Entry) :
    Alike place first second (left.putAt other entry) (right.putAt other entry) := by
  have same (asked : Place) (before : left.entry? asked = right.entry? asked) :
      entry? (left.putAt other entry) asked = entry? (right.putAt other entry) asked := by
    rw [entry?_putAt, entry?_putAt, before]
  refine ⟨fun asked differs => same asked (alike.elsewhere asked differs), ?_⟩
  by_cases here : place = other
  · left
    rw [here, entry?_putAt, entry?_putAt, if_pos rfl, if_pos rfl]
  · rw [entry?_putAt_of_ne here, entry?_putAt_of_ne here]
    exact alike.here

theorem removeAt (alike : Alike place first second left right) (other : Place) :
    Alike place first second (left.removeAt other) (right.removeAt other) := by
  have same (asked : Place) (before : left.entry? asked = right.entry? asked) :
      entry? (left.removeAt other) asked = entry? (right.removeAt other) asked := by
    rw [entry?_removeAt, entry?_removeAt, before]
  refine ⟨fun asked differs => same asked (alike.elsewhere asked differs), ?_⟩
  by_cases here : place = other
  · left
    rw [here, entry?_removeAt, entry?_removeAt, if_pos rfl, if_pos rfl]
  · rw [entry?_removeAt_of_ne here, entry?_removeAt_of_ne here]
    exact alike.here

/-! ## Changes -/

variable {current : Place} {path : Path}

/-- Two changes end alike: both fail in the same way, or make alike file systems. -/
abbrev Ends (place : Place) (first second : List UInt8) :
    Except OsFault FileSystem -> Except OsFault FileSystem -> Prop :=
  Outcome.Coincide (Alike place first second)

/-- Both find the same place, so it is enough to compare what is done there. -/
theorem atPlace (alike : Alike place first second left right)
    {step rerun : Place -> Except OsFault FileSystem}
    (each : forall other, right.locate current path = .ok other ->
      Ends place first second (step other) (rerun other)) :
    Ends place first second (left.locate current path >>= step)
      (right.locate current path >>= rerun) := by
  rw [alike.locate]
  cases located : right.locate current path with
  | error fault => exact .error fault
  | ok other => exact each other located

theorem makeDirectory (alike : Alike place first second left right) :
    Ends place first second (left.makeDirectory current path)
      (right.makeDirectory current path) := by
  refine alike.atPlace fun other _ => ?_
  rcases alike.cases other with same | ⟨here, there⟩
  · rw [same]
    split
    · exact .error _
    · exact .ok (alike.putAt other _)
  · rw [here, there]
    exact .error _

theorem createFile (alike : Alike place first second left right) :
    Ends place first second (left.createFile current path) (right.createFile current path) := by
  refine alike.atPlace fun other _ => ?_
  rcases alike.cases other with same | ⟨here, there⟩
  · rw [same]
    split
    · exact .error _
    · exact .ok (alike.putAt other _)
  · rw [here, there]
    exact .error _

theorem saveFile (alike : Alike place first second left right) (content : List UInt8) :
    Ends place first second (left.saveFile current path content)
      (right.saveFile current path content) := by
  refine alike.atPlace fun other _ => ?_
  rcases alike.cases other with same | ⟨here, there⟩
  · rw [same]
    split
    · exact .error _
    · exact .ok (alike.putAt other _)
  · rw [here, there]
    exact .ok (alike.putAt other _)

theorem removeFile (alike : Alike place first second left right) :
    Ends place first second (left.removeFile current path) (right.removeFile current path) := by
  refine alike.atPlace fun other _ => ?_
  rcases alike.cases other with same | ⟨here, there⟩
  · rw [same]
    split
    · exact .error _
    · exact .error _
    · exact .ok (alike.removeAt other)
  · rw [here, there]
    exact .ok (alike.removeAt other)

/-- More can be added to any file but the one that differs. -/
theorem append (alike : Alike place first second left right) (content : List UInt8)
    (apart : right.locate current path ≠ .ok place) :
    Ends place first second (left.append current path content)
      (right.append current path content) := by
  refine alike.atPlace fun other located => ?_
  rw [alike.elsewhere other fun same => apart (same ▸ located)]
  split
  · exact .error _
  · exact .error _
  · exact .ok (alike.putAt other _)

/-- Any file but the one that differs can be moved. -/
theorem replaceFile (alike : Alike place first second left right) {source target : Path}
    (apart : right.locate current source ≠ .ok place) :
    Ends place first second (left.replaceFile current source target)
      (right.replaceFile current source target) := by
  refine alike.atPlace fun sourcePlace located => ?_
  refine alike.atPlace fun targetPlace _ => ?_
  have moved (content : List UInt8) :
      Ends place first second
        (if sourcePlace = targetPlace then .ok left
          else .ok ((left.removeAt sourcePlace).putAt targetPlace (.file content)))
        (if sourcePlace = targetPlace then .ok right
          else .ok ((right.removeAt sourcePlace).putAt targetPlace (.file content))) := by
    split
    · exact .ok alike
    · exact .ok ((alike.removeAt sourcePlace).putAt targetPlace _)
  by_cases unnamed : isUnnamed target = true
  · rw [if_pos unnamed, if_pos unnamed]
    exact .error _
  · rw [if_neg unnamed, if_neg unnamed,
      alike.elsewhere sourcePlace fun same => apart (same ▸ located)]
    rcases alike.cases targetPlace with same | ⟨here, there⟩
    · rw [same]
      split
      · exact .error _
      · exact .error _
      · exact .error _
      · exact moved _
    · rw [here, there]
      cases right.entry? sourcePlace with
      | none => exact .error _
      | some entry =>
          cases entry with
          | directory => exact .error _
          | file content => exact moved content

end Alike
end FileSystem
end RouteIR
