import Mathlib.Data.List.Basic
import RouteIR.Path

namespace RouteIR
namespace Path

/-!
# Resolved paths

A pair of dots goes one step back, and any other part goes one step on.  A resolved path holds
no dots, so all its steps go on, and resolving it again changes nothing.
-/

/-- The step of one part, from a place that has been reached. -/
def step (kept : List String) (part : String) : List String :=
  if part = ".." then kept.dropLast else kept ++ [part]

theorem foldl_step_of_plain {parts : List String} (plain : forall part, part ∈ parts -> part ≠ "..")
    (start : List String) : parts.foldl step start = start ++ parts := by
  induction parts generalizing start with
  | nil => exact (List.append_nil start).symm
  | cons part rest ih =>
      have on : step start part = start ++ [part] := if_neg (plain part List.mem_cons_self)
      rw [List.foldl_cons, on, ih (List.forall_mem_of_forall_mem_cons plain), List.append_assoc]
      rfl

theorem plain_foldl_step (parts : List String) {start : List String}
    (plain : forall part, part ∈ start -> part ≠ "..") :
    forall part, part ∈ parts.foldl step start -> part ≠ ".." := by
  induction parts generalizing start with
  | nil => exact plain
  | cons next rest ih =>
      apply ih
      intro part member
      rw [step] at member
      split at member
      · exact plain part (List.dropLast_subset _ member)
      · next on =>
          rcases List.mem_append.mp member with before | last
          · exact plain part before
          · rw [List.mem_singleton.mp last]
            exact on

/-- What is left of the parts of a path when it is resolved holds no dots. -/
theorem plain_collapse (parts : List String) :
    forall part, part ∈ collapse parts -> part ≠ ".." :=
  plain_foldl_step parts nofun

theorem collapse_collapse (parts : List String) : collapse (collapse parts) = collapse parts :=
  foldl_step_of_plain (plain_collapse parts) []

/-- A path lies within another when it starts with all parts of it. -/
theorem isWithin_iff {base path : Path} :
    isWithin base path = true ↔ base.absolute = path.absolute ∧ base.parts <+: path.parts := by
  rw [isWithin, Bool.and_eq_true_iff, decide_eq_true_iff, List.isPrefixOf_iff_prefix]

end Path
end RouteIR
