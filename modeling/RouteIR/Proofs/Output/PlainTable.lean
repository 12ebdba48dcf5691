import Mathlib.Data.List.Basic
import RouteIR.Output

namespace RouteIR

/-!
# Plain tables

A plain table has a line for its headers and one for each row, with a tab between any two cells.
A reader who splits the text at the newlines and each line at the tabs finds the cells again just
when none of them holds a newline or a tab.
-/

/-! ## Texts for one cell -/

namespace Text

/-- The characters that end a cell. -/
def breaks : List Char := ['\t', '\n']

/-- Characters none of which ends a cell. -/
def Whole (chars : List Char) : Prop := forall char, char ∈ chars -> char ∉ breaks

-- This goes through the list, where a search would find that all characters can be gone through.
instance (chars : List Char) : Decidable (Whole chars) :=
  List.decidableBAll (fun char => char ∉ breaks) chars

theorem whole_append_iff {left right : List Char} :
    Whole (left ++ right) ↔ Whole left ∧ Whole right := List.forall_mem_append

theorem whole_cons_iff {char : Char} {chars : List Char} :
    Whole (char :: chars) ↔ char ∉ breaks ∧ Whole chars := List.forall_mem_cons

theorem whole_flatMap_iff {α : Type} {items : List α} {chars : α -> List Char} :
    Whole (items.flatMap chars) ↔ forall item, item ∈ items -> Whole (chars item) :=
  List.forall_mem_flatMap

/-- What is spelled with whole characters is whole. -/
theorem Whole.of_subset {chars alphabet : List Char} (whole : Whole alphabet)
    (spelled : chars ⊆ alphabet) : Whole chars :=
  fun char member => whole char (spelled member)

/-- A text that can stand in one cell. -/
def Unbroken (text : String) : Prop := Whole text.toList

instance (text : String) : Decidable (Unbroken text) :=
  inferInstanceAs (Decidable (Whole text.toList))

theorem unbroken_ofList_iff {chars : List Char} : Unbroken (String.ofList chars) ↔ Whole chars := by
  rw [Unbroken, String.toList_ofList]

theorem unbroken_append_iff {left right : String} :
    Unbroken (left ++ right) ↔ Unbroken left ∧ Unbroken right := by
  rw [Unbroken, String.toList_append, whole_append_iff]
  rfl

/-- What encloses a text is all the same if it is unbroken itself. -/
theorem unbroken_enclosed_iff {opening text closing : String} (opens : Unbroken opening)
    (closes : Unbroken closing) : Unbroken (opening ++ text ++ closing) ↔ Unbroken text := by
  rw [unbroken_append_iff, unbroken_append_iff, and_iff_left closes, and_iff_right opens]

/-- All characters of joined texts are good just when those of each text are, if those between
them are. -/
theorem forall_mem_intercalate_iff {good : Char -> Prop} {separator : String}
    (between : forall char, char ∈ separator.toList -> good char) {texts : List String} :
    (forall char, char ∈ (separator.intercalate texts).toList -> good char) ↔
      forall text, text ∈ texts -> forall char, char ∈ text.toList -> good char := by
  induction texts with
  | nil =>
      rw [String.intercalate_nil]
      exact ⟨fun _ => nofun, fun _ => nofun⟩
  | cons first rest ih =>
      cases rest with
      | nil => rw [String.intercalate_singleton, List.forall_mem_singleton]
      | cons second later =>
          rw [String.intercalate_cons_cons, List.forall_mem_cons, ← ih]
          simp only [String.toList_append, List.mem_append, or_imp, forall_and]
          exact and_congr_left fun _ => and_iff_left between

theorem unbroken_intercalate_iff {separator : String} (between : Unbroken separator)
    {texts : List String} :
    Unbroken (separator.intercalate texts) ↔ forall text, text ∈ texts -> Unbroken text :=
  forall_mem_intercalate_iff between

/-! ## Splitting -/

section Splitting

variable {separator : Char} {chars piece : List Char}

/-- What is split at a character no longer holds it, and holds nothing new. -/
theorem mem_splitOn (member : piece ∈ chars.splitOn separator) :
    separator ∉ piece ∧ piece ⊆ chars := by
  induction chars generalizing piece with
  | nil =>
      rw [List.splitOn_nil, List.mem_singleton] at member
      rw [member]
      exact ⟨List.not_mem_nil, List.nil_subset _⟩
  | cons char rest ih =>
      rw [List.splitOn_cons_eq_if_modifyHead] at member
      split at member
      · rcases List.mem_cons.mp member with rfl | later
        · exact ⟨List.not_mem_nil, List.nil_subset _⟩
        · exact ⟨(ih later).1, List.subset_cons_of_subset char (ih later).2⟩
      · next other =>
          cases pieces : rest.splitOn separator with
          | nil => exact absurd pieces (List.splitOn_ne_nil _ _)
          | cons first others =>
              rw [pieces] at ih member
              rw [List.modifyHead_cons] at member
              rcases List.mem_cons.mp member with rfl | later
              · rcases ih List.mem_cons_self with ⟨whole, within⟩
                refine ⟨?_, List.cons_subset_cons char within⟩
                rw [List.mem_cons, not_or]
                exact ⟨fun same => other (beq_iff_eq.mpr same.symm), whole⟩
              · rcases ih (List.mem_cons_of_mem first later) with ⟨whole, within⟩
                exact ⟨whole, List.subset_cons_of_subset char within⟩

/-- Lines are found again if a newline ends each of them and stands nowhere else. -/
theorem splitOn_lines {lines : List (List Char)}
    (whole : forall line, line ∈ lines -> separator ∉ line) :
    (lines.flatMap fun line => line ++ [separator]).splitOn separator = lines ++ [[]] := by
  induction lines with
  | nil => rfl
  | cons line rest ih =>
      rw [List.flatMap_cons, List.append_assoc, List.singleton_append,
        List.splitOn_append_cons_self_of_not_mem (whole line List.mem_cons_self),
        ih (List.forall_mem_of_forall_mem_cons whole)]
      rfl

end Splitting

end Text

/-! ## Reading a table -/

namespace Output

/-- The cells of a text, line by line.  Where a text ends in a newline, an empty cell stands for
what comes after it. -/
def readRows (text : String) : List (List String) :=
  (text.toList.splitOn '\n').map fun line => (line.splitOn '\t').map String.ofList

/-- What is read from a cell is unbroken, whatever has been written. -/
theorem unbroken_of_readRows {text cell : String} {row : List String}
    (inText : row ∈ readRows text) (inRow : cell ∈ row) : Text.Unbroken cell := by
  rcases List.mem_map.mp inText with ⟨line, lineMember, rfl⟩
  rcases List.mem_map.mp inRow with ⟨piece, pieceMember, rfl⟩
  rcases Text.mem_splitOn lineMember with ⟨noNewline, _⟩
  rcases Text.mem_splitOn pieceMember with ⟨noTab, within⟩
  intro char member ends
  rw [String.toList_ofList] at member
  rcases List.mem_pair.mp ends with rfl | rfl
  · exact noTab member
  · exact noNewline (within member)

/-- The characters of the line of a row. -/
def rowLine (row : List String) : List Char := ("\t".intercalate row).toList

section Rows

variable {row : List String}

/-- The line of a row holds no newline if no cell does. -/
theorem newline_not_mem_rowLine (unbroken : forall cell, cell ∈ row -> Text.Unbroken cell) :
    '\n' ∉ rowLine row := by
  have between : forall char, char ∈ "\t".toList -> char ≠ '\n' := by
    intro char member
    rw [List.mem_singleton.mp member]
    decide
  intro inside
  refine (Text.forall_mem_intercalate_iff between).mpr ?_ '\n' inside rfl
  rintro cell member char inCell rfl
  exact unbroken cell member '\n' inCell (by decide)

/-- A row is read from its line if all cells are unbroken. -/
theorem splitOn_rowLine (filled : row ≠ [])
    (unbroken : forall cell, cell ∈ row -> Text.Unbroken cell) :
    ((rowLine row).splitOn '\t').map String.ofList = row := by
  have parted : (rowLine row).splitOn '\t' = row.map String.toList := by
    rw [rowLine, String.toList_intercalate]
    refine List.splitOn_intercalate '\t' ?_ (by simpa using filled)
    intro chars member
    rcases List.mem_map.mp member with ⟨cell, cellMember, rfl⟩
    exact fun inside => unbroken cell cellMember '\t' inside (by decide)
  rw [parted, List.map_map]
  exact List.map_id'' (fun _ => String.ofList_toList) row

end Rows

section Tables

variable {output : Output} {headers : List String} {rows : List (List String)}

theorem toList_table (plain : output.format = .plain) :
    (output.table headers rows).toList =
      ((headers :: rows).map rowLine).flatMap fun line => line ++ ['\n'] := by
  simp only [table, plain, String.toList_join, List.flatMap_map, line, String.toList_append]
  rfl

/-- The cells of a plain table, and nothing after them, are read as they were written just when
all are unbroken. -/
theorem readRows_table_iff (plain : output.format = .plain)
    (filled : forall row, row ∈ headers :: rows -> row ≠ []) :
    readRows (output.table headers rows) = headers :: rows ++ [[""]] ↔
      forall row, row ∈ headers :: rows -> forall cell, cell ∈ row -> Text.Unbroken cell := by
  constructor
  · intro found row member cell inRow
    have read : row ∈ readRows (output.table headers rows) := by
      rw [found]
      exact List.mem_append_left _ member
    exact unbroken_of_readRows read inRow
  · intro unbroken
    have whole : forall line, line ∈ (headers :: rows).map rowLine -> '\n' ∉ line :=
      List.forall_mem_map.mpr fun row member => newline_not_mem_rowLine (unbroken row member)
    have each : ((headers :: rows).map rowLine).map
        (fun line => (line.splitOn '\t').map String.ofList) = headers :: rows := by
      rw [List.map_map]
      apply (List.map_congr_left fun row member => ?_).trans (List.map_id _)
      exact splitOn_rowLine (filled row member) (unbroken row member)
    rw [readRows, toList_table plain, Text.splitOn_lines whole, List.map_append, each]
    rfl

end Tables

end Output
end RouteIR
