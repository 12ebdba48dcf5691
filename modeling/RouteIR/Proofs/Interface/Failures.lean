import RouteIR.Proofs.Document.Escape.Paths
import RouteIR.Proofs.Interface.Legibility

namespace RouteIR

/-!
# How the work on a document ends

A document tree whose integers all have a text has an interface or violates a rule, unless
reading it escapes.  The stages after reading never escape: their checks speak of rules only,
and planning never fails.
-/

/-- The message of a failure is made, or it shows a value that has no text. -/
theorem Failure.raised_cases (failure : Failure) :
    failure.raised = failure ∨ failure.raised = .illegible := by
  cases failure with
  | rule violation =>
      rw [raised]
      split
      · exact Or.inl rfl
      · exact Or.inr rfl
  | _ => exact Or.inl rfl

theorem Failure.Unruled.raised {failure : Failure} (unruled : failure.Unruled) :
    failure.raised = failure := by
  cases failure with
  | rule violation => exact absurd rfl (unruled.noRule violation)
  | _ => rfl

namespace Interface

open Outcome (Escapes Succeeds)

/-- The work on a tree escapes where reading it does. -/
theorem escapes_ofTree_iff {tree : Tree} (legible : tree.isLegible = true) (failure : Failure) :
    Escapes (ofTree tree) failure ↔ Document.DocumentEscapes tree failure := by
  rw [← Document.escapes_read_iff]
  constructor
  · rintro ⟨refused, unruled⟩
    have told {early : Failure} (same : early.raised = failure) : early = failure := by
      rcases early.raised_cases with kept | lost
      · exact kept.symm.trans same
      · rw [← same, lost] at refused
        exact absurd refused (ofTree_ne_illegible legible)
    rcases (ofTree_eq_error_iff tree failure).mp refused with
      unread | ⟨document, read, untyped | ⟨components, typed, unrouted | ⟨routes, made, unplanned⟩⟩⟩
    · rcases Outcome.mapError_eq_error_iff.mp unread with ⟨early, readRefused, same⟩
      rw [told same] at readRefused
      exact ⟨readRefused, unruled⟩
    · rcases Outcome.mapError_eq_error_iff.mp untyped with ⟨violation, _, same⟩
      exact absurd (told same).symm (unruled.noRule violation)
    · rcases Outcome.mapError_eq_error_iff.mp unrouted with ⟨violation, _, same⟩
      exact absurd (told same).symm (unruled.noRule violation)
    · rcases DecoderPlan.forRoutes_of_closed (settled_of_componentsOf typed).closed
        (ofPaths_of_routesOf made) with ⟨plan, _, _, planned, _⟩
      rw [planned (legible_of_routes legible read typed made)] at unplanned
      cases unplanned
  · rintro ⟨readRefused, unruled⟩
    refine ⟨(ofTree_eq_error_iff tree failure).mpr (Or.inl ?_), unruled⟩
    exact Outcome.mapError_eq_error_iff.mpr ⟨failure, readRefused, unruled.raised⟩

/-- A document with a parameter whose name is a list. -/
def listNameTree : Tree :=
  .map [(.str "paths", .map [(.str "/a", .map [(.str "get", .map [(.str "parameters",
    .list [.map [(.str "name", .list [.str "q"] none), (.str "in", .str "query")] none] none)]
      none)] none)] none)] none

/-- The list is looked up as a key before the parameter is checked for its name. -/
theorem escapes_listNameTree :
    Document.DocumentEscapes listNameTree (.compoundKey .list) := by
  refine .path rfl ⟨[], rfl⟩ rfl ⟨[], _, [], rfl, by simp, .intro rfl rfl ?_⟩
  refine .operation rfl (Document.identified_nil []) ?_
  refine ⟨[], _, _, _, [], .get, rfl, rfl, by decide, by simp, by simp, ⟨[], rfl⟩, ?_⟩
  exact .key rfl ⟨[], _, _, [], .list, rfl, Document.identified_nil [], rfl, rfl⟩

end Interface
end RouteIR
