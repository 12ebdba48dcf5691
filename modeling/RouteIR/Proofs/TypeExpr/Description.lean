import RouteIR.Proofs.Number.Text
import RouteIR.Proofs.Output.PlainTable
import RouteIR.Proofs.Text.Quoted
import RouteIR.TypeExpr.Description

namespace RouteIR

/-!
# What a description spells out

The description of a type is one line unless the document puts a break into it.  Numbers and
literals are safe, and so are the words that are fixed.  A format, a pattern and the name of a
component are spelled out as they stand in the document, and no others are, however deep the
type.
-/

open Text

/-! ## Texts that are safe -/

/-- A number is written in one line. -/
theorem unbroken_of_numeral {text : String} (numeral : Numeral text.toList) : Unbroken text := by
  have whole : Whole numeralAlphabet := by decide
  exact whole.of_subset fun _ => numeral.mem_numeralAlphabet

theorem unbroken_of_int (value : Int) : Unbroken (toString value) :=
  unbroken_of_numeral (numeral_of_int value)

theorem unbroken_of_nat (value : Nat) : Unbroken (toString value) := unbroken_of_int value

theorem Text.whole_hexDigits (width value : Nat) : Whole (hexDigits width value) := by
  have whole : Whole hexAlphabet := by decide
  exact whole.of_subset fun _ => mem_hexAlphabet_of_hexDigits

namespace Json

theorem whole_writeFloat (value : Binary64) : Whole (writeFloat value) := by
  unfold writeFloat
  split
  · decide
  · next negative => cases negative <;> decide
  · exact unbroken_of_numeral (Number.float value).numeral_text

/-- The code of a character in base sixteen, behind the start of an escape. -/
theorem whole_escape (unit : Nat) : Whole ('\\' :: 'u' :: hexDigits 4 unit) := by
  rw [whole_cons_iff, whole_cons_iff]
  exact ⟨by decide, by decide, whole_hexDigits 4 unit⟩

/-- A character of a string is escaped if it is a break. -/
theorem whole_writeChar (char : Char) : Whole (writeChar char) := by
  fun_cases writeChar char with
  | case8 => exact whole_escape _
  | case9 _ _ noNewline _ noTab =>
      intro written inside ends
      rw [List.mem_singleton.mp inside] at ends
      rcases List.mem_pair.mp ends with tab | newline
      · exact noTab tab
      · exact noNewline newline
  | _ => decide

theorem whole_writeAsciiChar (char : Char) : Whole (writeAsciiChar char) := by
  rw [writeAsciiChar]
  split
  · exact whole_writeChar char
  · exact whole_flatMap_iff.mpr fun unit _ => whole_escape unit

theorem unbroken_asciiString (text : String) : Unbroken (asciiString text) := by
  have inner : Whole (text.toList.flatMap writeAsciiChar) :=
    whole_flatMap_iff.mpr fun char _ => whole_writeAsciiChar char
  rw [asciiString, unbroken_ofList_iff, List.cons_append, whole_cons_iff, whole_append_iff]
  exact ⟨by decide, inner, by decide⟩

end Json

theorem Literal.unbroken_describe (literal : Literal) : Unbroken literal.describe := by
  cases literal with
  | bool value => cases value <;> decide
  | int value => exact unbroken_of_int value
  | float value => exact unbroken_ofList_iff.mpr (Json.whole_writeFloat value)
  | str text => exact Json.unbroken_asciiString text

/-! ## Texts that are spelled out -/

/-- All of some texts can stand in a cell. -/
abbrev AllUnbroken (texts : List String) : Prop := forall text, text ∈ texts -> Unbroken text

theorem allUnbroken_cons_iff {text : String} {texts : List String} :
    AllUnbroken (text :: texts) ↔ Unbroken text ∧ AllUnbroken texts := List.forall_mem_cons

theorem allUnbroken_append_iff {left right : List String} :
    AllUnbroken (left ++ right) ↔ AllUnbroken left ∧ AllUnbroken right := List.forall_mem_append

theorem allUnbroken_flatMap_iff {α : Type} {items : List α} {texts : α -> List String} :
    AllUnbroken (items.flatMap texts) ↔ forall item, item ∈ items -> AllUnbroken (texts item) :=
  List.forall_mem_flatMap

theorem allUnbroken_singleton_iff {text : String} : AllUnbroken [text] ↔ Unbroken text :=
  List.forall_mem_singleton

/-- Descriptions that are joined are in one line together if each spells out its own texts. -/
theorem unbroken_listing_iff {α : Type} {items : List α} {describe : α -> String}
    {spelled : α -> List String}
    (each : forall item, item ∈ items -> (Unbroken (describe item) ↔ AllUnbroken (spelled item))) :
    Unbroken (", ".intercalate (items.map describe)) ↔ AllUnbroken (items.flatMap spelled) := by
  rw [unbroken_intercalate_iff (by decide), List.forall_mem_map, allUnbroken_flatMap_iff]
  exact forall₂_congr each

/-- The text of a refinement that its description spells out. -/
def Refinement.spelled : Refinement -> List String
  | pattern text => [text]
  | _ => []

theorem Refinement.unbroken_describe_iff (refinement : Refinement) :
    Unbroken refinement.describe ↔ AllUnbroken refinement.spelled := by
  have kind : Unbroken refinement.kind.text := by cases refinement.kind <;> decide
  have sign : Unbroken "=" := by decide
  rw [describe, unbroken_append_iff, unbroken_append_iff, and_iff_left sign, and_iff_right kind]
  cases refinement with
  | pattern text => exact allUnbroken_singleton_iff.symm
  | minLength value | maxLength value => exact iff_of_true (unbroken_of_int value) nofun
  | minimum value | maximum value =>
      exact iff_of_true (unbroken_of_numeral value.numeral_text) nofun

/-- The texts of a primitive that its description spells out. -/
def Primitive.spelled (scalar : Primitive) : List String :=
  scalar.format.toList ++ scalar.refinements.flatMap Refinement.spelled

theorem Primitive.unbroken_describe_iff (scalar : Primitive) :
    Unbroken scalar.describe ↔ AllUnbroken scalar.spelled := by
  have kind : Unbroken scalar.kind.text := by cases scalar.kind <;> decide
  rw [describe, spelled, unbroken_append_iff, unbroken_append_iff, allUnbroken_append_iff,
    and_iff_right kind]
  apply and_congr
  · split
    · next missing =>
        rw [missing]
        decide
    · next missing =>
        rw [missing]
        decide
    · next format _ given =>
        rw [given, unbroken_enclosed_iff (by decide) (by decide)]
        exact allUnbroken_singleton_iff.symm
  · split
    · next none =>
        rw [List.isEmpty_iff.mp none]
        decide
    · rw [unbroken_enclosed_iff (by decide) (by decide)]
      exact unbroken_listing_iff fun refinement _ => refinement.unbroken_describe_iff

/-- The texts of a type that its description spells out. -/
def TypeExpr.spelled : TypeExpr -> List String
  | primitive scalar => scalar.spelled
  | array element => element.spelled
  | enum _ => []
  | ref name => [name]
  | record _ => []

/-- A type is described in one line just when no text that is spelled out has a break. -/
theorem TypeExpr.unbroken_describe_iff :
    (type : TypeExpr) -> (Unbroken type.describe ↔ AllUnbroken type.spelled)
  | primitive scalar => scalar.unbroken_describe_iff
  | array element => by
      rw [describe, unbroken_enclosed_iff (by decide) (by decide)]
      exact element.unbroken_describe_iff
  | enum values => by
      rw [describe, unbroken_enclosed_iff (by decide) (by decide),
        unbroken_intercalate_iff (by decide), List.forall_mem_map]
      exact iff_of_true (fun literal _ => literal.unbroken_describe) nofun
  | ref name => allUnbroken_singleton_iff.symm
  | record fields => by
      rw [describe, unbroken_enclosed_iff (by decide) (by decide)]
      exact iff_of_true (unbroken_of_nat fields.length) nofun

end RouteIR
