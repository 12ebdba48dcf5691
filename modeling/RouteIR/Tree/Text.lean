import RouteIR.Text.Quoted
import RouteIR.Tree

namespace RouteIR
namespace Tree

/-!
# The text of a tree

Messages show values in two forms.  The display form of a text is the text
itself; everything inside a compound value, and every value in the quoted form,
is written as a literal.  A value inside itself is written once, and three dots stand where
it is met again.
-/

/-- A truth value as it is written in messages. -/
def boolText (value : Bool) : String := if value then "True" else "False"

mutual

/-- A value as a literal, inside the values with the given labels. -/
def quotedWithin (around : List Label) : Tree → String
  | null => "None"
  | bool value => boolText value
  | int value => toString value
  | float value => value.text
  | str text => Text.quote text
  | bytes content => Text.quoteBytes content
  | date value => value.quoted
  | dateTime value => value.quoted
  | list items label =>
      if recurs around label then "[...]"
      else "[" ++ ", ".intercalate (quotedItems (label.toList ++ around) items) ++ "]"
  | tuple items label =>
      if recurs around label then "(...)"
      else "(" ++ ", ".intercalate (quotedItems (label.toList ++ around) items) ++
        (if items.length = 1 then ",)" else ")")
  | set [] => "set()"
  | set members => "\x7b" ++ ", ".intercalate (quotedItems around members) ++ "\x7d"
  | map entries label =>
      if recurs around label then "\x7b...\x7d"
      else "\x7b" ++ ", ".intercalate (quotedEntries (label.toList ++ around) entries) ++ "\x7d"

def quotedItems (around : List Label) : List Tree → List String
  | [] => []
  | item :: rest => item.quotedWithin around :: quotedItems around rest

def quotedEntries (around : List Label) : List (Tree × Tree) → List String
  | [] => []
  | (key, value) :: rest =>
      (key.quotedWithin around ++ ": " ++ value.quotedWithin around) :: quotedEntries around rest

end

/-- A value as a literal. -/
def quoted (tree : Tree) : String := tree.quotedWithin []

/-- A value as it reads in running text. -/
def display : Tree → String
  | str text => text
  | date value => value.isoText
  | dateTime value => value.isoText " "
  | value => value.quoted

/-- A result that needs the text of a tree, and fails where there is none. -/
def withText {ε α : Type} (tree : Tree) (illegible : ε) (result : Except ε α) : Except ε α :=
  if tree.isLegible then result else .error illegible

section WithText

variable {ε α : Type} {tree : Tree} {illegible : ε} {result : Except ε α}

theorem withText_of_isLegible (legible : tree.isLegible = true) :
    tree.withText illegible result = result := if_pos legible

theorem withText_of_not_isLegible (unknown : tree.isLegible = false) :
    tree.withText illegible result = .error illegible := if_neg (Bool.eq_false_iff.mp unknown)

@[simp] theorem withText_eq_ok_iff {value : α} :
    tree.withText illegible result = .ok value ↔ tree.isLegible = true ∧ result = .ok value := by
  rw [withText]
  split <;> simp_all

theorem withText_eq_error_iff {failure : ε} :
    tree.withText illegible result = .error failure ↔
      (tree.isLegible = false ∧ illegible = failure) ∨
        (tree.isLegible = true ∧ result = .error failure) := by
  rw [withText]
  split <;> simp_all

end WithText

/-- The name of a value's kind, for messages. -/
def kindName : Tree → String
  | null => "NoneType"
  | bool _ => "bool"
  | int _ => "int"
  | float _ => "float"
  | str _ => "str"
  | bytes _ => "bytes"
  | date _ => "date"
  | dateTime _ => "datetime"
  | list _ _ => "list"
  | tuple _ _ => "tuple"
  | set _ => "set"
  | map _ _ => "dict"

end Tree
end RouteIR
