import Mathlib.Data.List.Nodup
import RouteIR.Document.Reading
import RouteIR.Proofs.Outcome

namespace RouteIR
namespace Document

/-!
# How parameters are identified

A parameter is identified by its name and its place, whatever values stand there, as long
as they can serve as keys.  A parameter list is accepted as one without duplicates exactly
when its mappings are identified, each in another way.
-/

open Outcome (Succeeds)

/-- Each mapping of a parameter list is identified, each in another way than the others
and than those seen before. -/
structure Identified (seen : List (Identity × Identity)) (parameters : List Tree) : Prop where
  keys : forall entries label, Tree.map entries label ∈ parameters ->
    Succeeds (parameterKey entries)
  distinct : (parameterKeys parameters).Nodup
  fresh : forall key, key ∈ parameterKeys parameters -> key ∉ seen

theorem parameterKeys_cons_map {entries : List (Tree × Tree)} {key : Identity × Identity}
    (keyed : parameterKey entries = .ok key) (label : Option Label) (rest : List Tree) :
    parameterKeys (.map entries label :: rest) = key :: parameterKeys rest := by
  simp [parameterKeys, keyed, Except.toOption]

theorem parameterKeys_cons_other {parameter : Tree}
    (other : forall entries label, parameter ≠ .map entries label) (rest : List Tree) :
    parameterKeys (parameter :: rest) = parameterKeys rest := by
  cases parameter with
  | map entries label => exact absurd rfl (other entries label)
  | _ => rfl

theorem parameterKeys_append (before after : List Tree) :
    parameterKeys (before ++ after) = parameterKeys before ++ parameterKeys after :=
  List.filterMap_append

theorem parameterKey_eq_ok_iff (entries : List (Tree × Tree)) (name place : Identity) :
    parameterKey entries = .ok (name, place) ↔
      (Tree.field "name" entries).identity = .ok name ∧
        (Tree.field "in" entries).identity = .ok place := by
  rw [parameterKey]
  simp only [Outcome.bind_eq_ok_iff, Outcome.pure_eq_ok_iff, Prod.mk.injEq]
  constructor
  · rintro ⟨_, nameFound, _, placeFound, rfl, rfl⟩
    exact ⟨nameFound, placeFound⟩
  · rintro ⟨nameFound, placeFound⟩
    exact ⟨_, nameFound, _, placeFound, rfl, rfl⟩

theorem identified_nil (seen : List (Identity × Identity)) : Identified seen [] :=
  ⟨by simp, List.nodup_nil, by simp [parameterKeys]⟩

theorem identified_cons_map_iff (seen : List (Identity × Identity)) (entries : List (Tree × Tree))
    (label : Option Label) (rest : List Tree) :
    Identified seen (.map entries label :: rest) ↔ Exists fun key =>
      parameterKey entries = .ok key ∧ key ∉ seen ∧ Identified (key :: seen) rest := by
  constructor
  · intro identified
    rcases identified.keys entries label List.mem_cons_self with ⟨key, keyFound⟩
    have keysCons := parameterKeys_cons_map keyFound label rest
    have distinct := identified.distinct
    have fresh := identified.fresh
    rw [keysCons] at distinct fresh
    rw [List.nodup_cons] at distinct
    refine ⟨key, keyFound, fresh key List.mem_cons_self, ?_, distinct.2, ?_⟩
    · exact fun inner innerLabel member =>
        identified.keys inner innerLabel (List.mem_cons_of_mem _ member)
    · intro other member taken
      rcases List.mem_cons.mp taken with rfl | old
      · exact distinct.1 member
      · exact fresh other (List.mem_cons_of_mem _ member) old
  · rintro ⟨key, keyFound, keyFresh, identified⟩
    have keysCons := parameterKeys_cons_map keyFound label rest
    refine ⟨?_, ?_, ?_⟩
    · intro inner innerLabel member
      rcases List.mem_cons.mp member with same | later
      · cases same
        exact ⟨key, keyFound⟩
      · exact identified.keys inner innerLabel later
    · rw [keysCons, List.nodup_cons]
      exact ⟨fun member => identified.fresh key member List.mem_cons_self, identified.distinct⟩
    · rw [keysCons]
      intro other member
      rcases List.mem_cons.mp member with rfl | later
      · exact keyFresh
      · exact fun old => identified.fresh other later (List.mem_cons_of_mem _ old)

theorem identified_cons_other_iff (seen : List (Identity × Identity)) {parameter : Tree}
    (other : forall entries label, parameter ≠ .map entries label) (rest : List Tree) :
    Identified seen (parameter :: rest) ↔ Identified seen rest := by
  have keysSame := parameterKeys_cons_other other rest
  constructor
  · rintro ⟨keys, distinct, fresh⟩
    rw [keysSame] at distinct fresh
    exact ⟨fun entries label member => keys entries label (List.mem_cons_of_mem _ member),
      distinct, fresh⟩
  · rintro ⟨keys, distinct, fresh⟩
    rw [← keysSame] at distinct fresh
    refine ⟨?_, distinct, fresh⟩
    intro entries label member
    rcases List.mem_cons.mp member with same | later
    · exact absurd same.symm (other entries label)
    · exact keys entries label later

/-- A parameter list is accepted as one without duplicates when its mappings are
identified. -/
theorem checkUnique_eq_ok_iff (location : String) (seen : List (Identity × Identity))
    (parameters : List Tree) :
    checkUnique location seen parameters = .ok () ↔ Identified seen parameters := by
  fun_induction checkUnique location seen parameters with
  | case1 seen => simp [identified_nil]
  | case2 seen entries label rest kind compound =>
      rw [identified_cons_map_iff, compound]
      simp
  | case3 seen entries label rest key keyFound taken =>
      rw [identified_cons_map_iff, keyFound]
      simp_all [invalid]
  | case4 seen entries label rest key keyFound fresh ih =>
      rw [identified_cons_map_iff, ih]
      simp_all
  | case5 seen parameter rest other ih =>
      rw [ih, identified_cons_other_iff]
      exact other

end Document
end RouteIR
