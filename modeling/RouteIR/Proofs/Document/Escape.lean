import RouteIR.Proofs.Document.Identification
import RouteIR.Proofs.Document.Reading
import RouteIR.Proofs.Schema.Format

namespace RouteIR

/-!
# Values that no rule speaks of

Reading a document ends with a violation of a rule or with a key that has no text, or else it
escapes: at a compound value where a parameter is identified, at a format of a schema, or at an
identifier of an operation that is no text.  The relations of this module say for each section
of a document where that happens, with everything that is read before.
-/

/-- A failure that is neither a violation of a rule nor the want of a text. -/
structure Failure.Unruled (failure : Failure) : Prop where
  noRule : forall violation, failure ≠ .rule violation
  noIllegible : failure ≠ .illegible

theorem Failure.unruled_notText (field : TextField) (fault : TextFault) :
    (notText field fault).Unruled := by
  constructor
  · intro violation same
    cases same
  · intro same
    cases same

theorem Failure.unruled_compoundKey (kind : Compound) : (compoundKey kind).Unruled := by
  constructor
  · intro violation same
    cases same
  · intro same
    cases same

namespace Outcome

variable {α β : Type}

/-- A computation fails, neither over a rule nor for want of a text. -/
def Escapes (outcome : Except Failure α) (failure : Failure) : Prop :=
  outcome = .error failure ∧ failure.Unruled

theorem not_escapes_ok {value : α} {failure : Failure} :
    ¬ Escapes (.ok value : Except Failure α) failure := by
  rintro ⟨same, _⟩
  cases same

theorem not_escapes_rule {violation : Violation} {failure : Failure} :
    ¬ Escapes (.error (.rule violation) : Except Failure α) failure := by
  rintro ⟨same, unruled⟩
  cases same
  exact unruled.noRule violation rfl

theorem not_escapes_illegible {failure : Failure} :
    ¬ Escapes (.error .illegible : Except Failure α) failure := by
  rintro ⟨same, unruled⟩
  cases same
  exact unruled.noIllegible rfl

theorem escapes_withText_iff {tree : Tree} {outcome : Except Failure α} {failure : Failure} :
    Escapes (tree.withText .illegible outcome) failure ↔
      tree.isLegible = true ∧ Escapes outcome failure := by
  cases legible : tree.isLegible with
  | true => simp [Tree.withText_of_isLegible legible]
  | false => simp [Tree.withText_of_not_isLegible legible, not_escapes_illegible]

theorem escapes_bind_iff {outcome : Except Failure α} {next : α -> Except Failure β}
    {failure : Failure} :
    Escapes (outcome >>= next) failure ↔ Escapes outcome failure ∨
      Exists fun middle => outcome = .ok middle ∧ Escapes (next middle) failure := by
  simp only [Escapes, bind_eq_error_iff]
  constructor
  · rintro ⟨failed | ⟨middle, succeeded, failed⟩, unruled⟩
    · exact Or.inl ⟨failed, unruled⟩
    · exact Or.inr ⟨middle, succeeded, failed, unruled⟩
  · rintro (⟨failed, unruled⟩ | ⟨middle, succeeded, failed, unruled⟩)
    · exact ⟨Or.inl failed, unruled⟩
    · exact ⟨Or.inr ⟨middle, succeeded, failed⟩, unruled⟩

theorem escapes_map_iff {outcome : Except Failure α} {change : α -> β} {failure : Failure} :
    Escapes (outcome.map change) failure ↔ Escapes outcome failure := by
  rw [Escapes, map_eq_error_iff, Escapes]

/-- A pass escapes at the first item that fails. -/
theorem escapes_mapM_iff {run : α -> Except Failure β} {items : List α} {failure : Failure} :
    Escapes (items.mapM run) failure ↔
      First (fun item => Succeeds (run item)) (fun item => Escapes (run item) failure) items := by
  rw [Escapes, mapM_eq_error_iff]
  constructor
  · rintro ⟨⟨before, item, after, split, earlier, failed⟩, unruled⟩
    exact ⟨before, item, after, split, earlier, failed, unruled⟩
  · rintro ⟨before, item, after, split, earlier, failed, unruled⟩
    exact ⟨⟨before, item, after, split, earlier, failed⟩, unruled⟩

end Outcome

namespace Document

open Outcome (Escapes Succeeds First)

/-! ## Schemas -/

/-- A schema is refused for a format in it. -/
inductive SchemaEscapes (node : Tree) : Failure -> Prop
  | format {fault : TextFault} (unread : Schema.UnreadFormat node fault) :
      SchemaEscapes node (.notText .format fault)

theorem escapes_readSchema_iff (location : String) (node : Tree) (failure : Failure) :
    Escapes (readSchema location node) failure ↔ SchemaEscapes node failure := by
  constructor
  · rintro ⟨refused, unruled⟩
    rcases Outcome.mapError_eq_error_iff.mp refused with ⟨refusal, readRefused, rfl⟩
    cases refusal with
    | fault fault => exact absurd rfl (unruled.noRule _)
    | illegible => exact absurd rfl unruled.noIllegible
    | formatNotText fault => exact .format ((Schema.read_unread_iff node fault).mp readRefused)
  · rintro ⟨unread⟩
    refine ⟨?_, Failure.unruled_notText _ _⟩
    rw [readSchema, (Schema.read_unread_iff node _).mpr unread]
    rfl

theorem escapes_readComponent_iff (entry : Tree × Tree) (failure : Failure) :
    Escapes (readComponent entry) failure ↔
      entry.1.isLegible = true ∧ SchemaEscapes entry.2 failure := by
  rw [readComponent, Outcome.escapes_map_iff, Outcome.escapes_withText_iff, escapes_readSchema_iff]

/-- Among the components one is refused for a format, and all before can be read. -/
inductive ComponentsEscape : Tree -> Failure -> Prop
  | intro {sections schemas : List (Tree × Tree)} {label schemasLabel : Option Label}
      {failure : Failure} (found : Tree.field "schemas" sections = .map schemas schemasLabel)
      (first : First (fun entry => Succeeds (readComponent entry))
        (fun entry => entry.1.isLegible = true ∧ SchemaEscapes entry.2 failure) schemas) :
      ComponentsEscape (.map sections label) failure

theorem escapes_readComponents_iff (components : Tree) (failure : Failure) :
    Escapes (readComponents components) failure ↔ ComponentsEscape components failure := by
  constructor
  · intro escape
    unfold readComponents at escape
    split at escape
    · exact absurd escape Outcome.not_escapes_ok
    · next sections label =>
        split at escape
        · exact absurd escape Outcome.not_escapes_ok
        · next schemas schemasLabel found =>
            rw [Outcome.escapes_map_iff, readComponentList_eq_mapM,
              Outcome.escapes_mapM_iff] at escape
            simp only [escapes_readComponent_iff] at escape
            exact .intro found escape
        · exact absurd escape Outcome.not_escapes_rule
    · exact absurd escape Outcome.not_escapes_rule
  · rintro ⟨found, first⟩
    simp only [readComponents, found]
    rw [Outcome.escapes_map_iff, readComponentList_eq_mapM, Outcome.escapes_mapM_iff]
    simpa only [escapes_readComponent_iff] using first

/-! ## Parameters -/

/-- Among the mappings of a parameter list one has a compound name or place, and all
before are identified. -/
def CompoundKey (seen : List (Identity × Identity)) (parameters : List Tree) (failure : Failure) :
    Prop :=
  Exists fun before => Exists fun entries => Exists fun label => Exists fun after =>
    Exists fun kind => parameters = before ++ .map entries label :: after ∧
      Identified seen before ∧ parameterKey entries = .error kind ∧ failure = .compoundKey kind

theorem compoundKey_cons_other_iff {seen : List (Identity × Identity)} {parameter : Tree}
    (other : forall entries label, parameter ≠ .map entries label) (rest : List Tree)
    (failure : Failure) :
    CompoundKey seen (parameter :: rest) failure ↔ CompoundKey seen rest failure := by
  constructor
  · rintro ⟨before, entries, label, after, kind, split, identified, compound, same⟩
    cases before with
    | nil =>
        rcases List.cons.inj split with ⟨rfl, _⟩
        exact absurd rfl (other entries label)
    | cons first before =>
        rcases List.cons.inj split with ⟨rfl, rfl⟩
        rw [identified_cons_other_iff seen other] at identified
        exact ⟨before, entries, label, after, kind, rfl, identified, compound, same⟩
  · rintro ⟨before, entries, label, after, kind, rfl, identified, compound, same⟩
    refine ⟨parameter :: before, entries, label, after, kind, rfl, ?_, compound, same⟩
    exact (identified_cons_other_iff seen other before).mpr identified

theorem compoundKey_cons_map_iff {seen : List (Identity × Identity)}
    (entries : List (Tree × Tree)) (label : Option Label) (rest : List Tree) (failure : Failure) :
    CompoundKey seen (.map entries label :: rest) failure ↔
      (Exists fun kind => parameterKey entries = .error kind ∧ failure = .compoundKey kind) ∨
        Exists fun key => parameterKey entries = .ok key ∧ key ∉ seen ∧
          CompoundKey (key :: seen) rest failure := by
  constructor
  · rintro ⟨before, inner, innerLabel, after, kind, split, identified, compound, same⟩
    cases before with
    | nil =>
        cases split
        exact Or.inl ⟨kind, compound, same⟩
    | cons first before =>
        cases split
        rcases (identified_cons_map_iff _ _ _ _).mp identified with ⟨key, keyFound, fresh, later⟩
        exact Or.inr ⟨key, keyFound, fresh, before, inner, innerLabel, after, kind, rfl, later,
          compound, same⟩
  · rintro (⟨kind, compound, same⟩ |
      ⟨key, keyFound, fresh, before, inner, innerLabel, after, kind, rfl, later, compound, same⟩)
    · exact ⟨[], entries, label, rest, kind, rfl, identified_nil seen, compound, same⟩
    · refine ⟨.map entries label :: before, inner, innerLabel, after, kind, rfl, ?_, compound, same⟩
      exact (identified_cons_map_iff _ _ _ _).mpr ⟨key, keyFound, fresh, later⟩

theorem escapes_checkUnique_iff (location : String) (seen : List (Identity × Identity))
    (parameters : List Tree) (failure : Failure) :
    Escapes (checkUnique location seen parameters) failure ↔
      CompoundKey seen parameters failure := by
  fun_induction checkUnique location seen parameters with
  | case1 seen => simp [CompoundKey, Outcome.not_escapes_ok]
  | case2 seen entries label rest kind compound =>
      rw [compoundKey_cons_map_iff, compound]
      constructor
      · rintro ⟨same, _⟩
        exact Or.inl ⟨kind, rfl, (Except.error.inj same).symm⟩
      · rintro (⟨_, same, rfl⟩ | ⟨_, same, _⟩)
        · cases same
          exact ⟨rfl, Failure.unruled_compoundKey kind⟩
        · cases same
  | case3 seen entries label rest key keyFound taken =>
      have old : key ∈ seen := by simpa using taken
      rw [compoundKey_cons_map_iff, keyFound, Outcome.escapes_withText_iff]
      simp [old, invalid, Failure.ofRule, Outcome.not_escapes_rule]
  | case4 seen entries label rest key keyFound fresh ih =>
      have new : key ∉ seen := by simpa using fresh
      rw [ih, compoundKey_cons_map_iff, keyFound]
      simp [new]
  | case5 seen parameter rest other ih =>
      rw [ih, compoundKey_cons_other_iff]
      exact other

/-- A parameter that is well-formed up to its schema, and whose schema is refused for a
format. -/
inductive ParameterEscapes : Tree -> Failure -> Prop
  | intro {entries : List (Tree × Tree)} {label : Option Label} {name : String}
      {place : ParameterLocation} {required : Bool} {node : Tree} {failure : Failure}
      (parts : ParameterParts entries name place required node)
      (schema : SchemaEscapes node failure) : ParameterEscapes (.map entries label) failure

theorem escapes_readParameter_iff (location : String) (parameter : Tree) (failure : Failure) :
    Escapes (readParameter location parameter) failure ↔ ParameterEscapes parameter failure := by
  constructor
  · intro escape
    rcases exists_parts_of_parameter location parameter with
      ⟨violation, refused⟩ | ⟨entries, label, name, place, required, node, rfl, parts⟩
    · rw [refused] at escape
      exact absurd escape Outcome.not_escapes_rule
    · rw [readParameter_of_parts parts, Outcome.escapes_map_iff, escapes_readSchema_iff] at escape
      exact .intro parts escape
  · rintro ⟨parts, schema⟩
    rw [readParameter_of_parts parts, Outcome.escapes_map_iff, escapes_readSchema_iff]
    exact schema

/-! ## Bodies -/

/-- A body that carries a schema which is refused for a format. -/
inductive BodyEscapes (body : Tree) : Failure -> Prop
  | intro {node : Tree} {failure : Failure} (carries : CarriesSchema body node)
      (shown : ¬ HidesSchema body) (schema : SchemaEscapes node failure) : BodyEscapes body failure

theorem escapes_readBody_iff (location : String) (body : Tree) (failure : Failure) :
    Escapes (readBody location body) failure ↔ BodyEscapes body failure := by
  constructor
  · intro escape
    rcases exists_carries_of_body location body with empty | ⟨violation, refused⟩ | ⟨node, carries⟩
    · rw [empty] at escape
      exact absurd escape Outcome.not_escapes_ok
    · rw [refused] at escape
      exact absurd escape Outcome.not_escapes_rule
    · have shown : ¬ HidesSchema body := by
        intro hides
        rw [readBody_of_hides hides] at escape
        exact Outcome.not_escapes_illegible escape
      rcases readBody_of_carries carries shown location with ⟨place, same⟩
      rw [same, Outcome.escapes_map_iff, escapes_readSchema_iff] at escape
      exact .intro carries shown escape
  · rintro ⟨carries, shown, schema⟩
    rcases readBody_of_carries carries shown location with ⟨place, same⟩
    rw [same, Outcome.escapes_map_iff, escapes_readSchema_iff]
    exact schema

theorem escapes_readResponse_iff (location : String) (entry : Tree × Tree) (failure : Failure) :
    Escapes (readResponse location entry) failure ↔
      entry.1.isLegible = true ∧ BodyEscapes entry.2 failure := by
  rw [readResponse, Outcome.escapes_map_iff, Outcome.escapes_withText_iff, escapes_readBody_iff]

end Document
end RouteIR
