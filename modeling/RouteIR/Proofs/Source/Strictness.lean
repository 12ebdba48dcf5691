import RouteIR.Proofs.Json.Closing
import RouteIR.Proofs.Source.Loading
import RouteIR.Proofs.Yaml.Loaders

namespace RouteIR
namespace Source

/-!
# Strict reading only rejects

The text of a document is read strictly: a repeated key is an error.  The plain parser of the same
format would keep the last value of it.  What strict reading gives is what the plain parser gives,
and what it refuses beyond that has a repeated key or, in YAML, a mapping inside itself.
-/

def IsMapping (tree : Tree) : Prop :=
  Exists fun entries => Exists fun label => tree = .map entries label

/-- What the plain parser makes of a text, in the format in which the text is read. -/
inductive ReadsPlainly (format : Format) (text : String) : Tree -> Prop
  | yaml {tree : Tree} (branch : ReadsYaml format text) (reads : Yaml.read .plain text = .ok tree) :
      ReadsPlainly format text tree
  | json {value : Json} (branch : ¬ ReadsYaml format text)
      (reads : Json.read .lastWins text = .ok value) : ReadsPlainly format text value.toTree

/-- Nothing in a text repeats a key: no mapping that is constructed where the text is read as YAML,
and no object anywhere in it where it is read as JSON. -/
def DistinctKeys (format : Format) (text : String) : Prop :=
  (ReadsYaml format text -> Yaml.DistinctKeys text) ∧
    (¬ ReadsYaml format text -> forall value, Json.read .verbatim text = .ok value ->
      value.DistinctKeys)

variable {format : Format} {text : String} {tree : Tree}

theorem requireMapping_eq_ok_iff {found : Tree} :
    requireMapping found = .ok tree ↔ found = tree ∧ IsMapping tree := by
  rw [requireMapping.eq_def]
  split
  · next entries label =>
      constructor
      · intro same
        cases same
        exact ⟨rfl, entries, label, rfl⟩
      · rintro ⟨rfl, _⟩
        rfl
  · next other noMapping =>
      constructor
      · intro same
        cases same
      · rintro ⟨rfl, entries, label, isMapping⟩
        exact absurd isMapping (noMapping entries label)

theorem readYaml_eq_ok_iff {jsonFault : Option String} :
    readYaml jsonFault text = .ok tree ↔ Yaml.read .strict text = .ok tree ∧ IsMapping tree := by
  rw [readYaml]
  split
  · next empty =>
      rw [empty]
      constructor
      · intro same
        cases same
      · rintro ⟨same, entries, label, rfl⟩
        cases same
  · next found _ reads => rw [reads, requireMapping_eq_ok_iff, Except.ok.injEq]
  · next failure fails =>
      rw [fails]
      constructor
      · intro same
        split at same <;> cases same
      · rintro ⟨same, _⟩
        cases same

theorem readContent_of_readsYaml (branch : ReadsYaml format text) :
    Exists fun jsonFault => readContent format text = readYaml jsonFault text := by
  rcases branch with rfl | ⟨rfl, fault, remaining, fails⟩
  · exact ⟨none, rfl⟩
  · refine ⟨some (fault.located text.toList remaining), ?_⟩
    rw [readContent, if_neg (by decide), fails]
    rfl

/-- What is not read as YAML is what strict JSON is read as, if that is a mapping. -/
theorem readContent_of_not_readsYaml (branch : ¬ ReadsYaml format text) :
    readContent format text = .ok tree ↔ Exists fun value =>
      Json.read .strict text = .ok value ∧ value.toTree = tree ∧ IsMapping tree := by
  have notYaml : format ≠ .yaml := fun isYaml => branch (.inl isYaml)
  rw [readContent, if_neg notYaml]
  cases reads : Json.read .strict text with
  | ok value => simp [requireMapping_eq_ok_iff]
  | error failure =>
      cases failure with
      | repeatedKey key => simp
      | longInteger => simp
      | syntaxFault fault remaining =>
          have isJson : format = .json := by
            cases format with
            | json => rfl
            | yaml => exact absurd rfl notYaml
            | unknown => exact absurd (.inr ⟨rfl, fault, remaining, reads⟩) branch
          simp [isJson]

/-- Strict reading gives what the plain parser gives, for a text without repeated keys.  It
refuses no other text but one in which a mapping lies inside itself. -/
theorem readContent_refines_plain
    (regular : ReadsYaml format text -> Yaml.RegularText text) :
    (forall tree, readContent format text = .ok tree ->
      ReadsPlainly format text tree ∧ DistinctKeys format text) ∧
    forall entries label, ReadsPlainly format text (.map entries label) ->
      DistinctKeys format text -> (ReadsYaml format text -> ¬ Yaml.NestsItself text) ->
        readContent format text = .ok (.map entries label) := by
  constructor
  · intro tree reads
    by_cases branch : ReadsYaml format text
    · rcases readContent_of_readsYaml branch with ⟨jsonFault, spelled⟩
      have strictly := (readYaml_eq_ok_iff.mp (spelled.symm.trans reads)).1
      rcases Yaml.read_plain_of_strict (regular branch) strictly with ⟨plainly, distinct⟩
      exact ⟨.yaml branch plainly, fun _ => distinct, fun other => absurd branch other⟩
    · rcases (readContent_of_not_readsYaml branch).mp reads with ⟨value, strictly, rfl, _⟩
      rcases Json.read_strict_eq_ok_iff.mp strictly with ⟨written, distinct⟩
      refine ⟨.json branch (Json.read_lastWins_of_distinctKeys written distinct),
        fun other => absurd other branch, fun _ found isFound => ?_⟩
      cases written.symm.trans isFound
      exact distinct
  · intro entries label plainly distinct wellFounded
    have isMapping : IsMapping (.map entries label) := ⟨entries, label, rfl⟩
    generalize Tree.map entries label = tree at plainly isMapping ⊢
    cases plainly with
    | yaml branch reads =>
        rcases readContent_of_readsYaml branch with ⟨jsonFault, spelled⟩
        have strictly := Yaml.read_strict_of_plain (regular branch) reads (distinct.1 branch)
          (wellFounded branch)
        exact spelled.trans (readYaml_eq_ok_iff.mpr ⟨strictly, isMapping⟩)
    | @json value branch reads =>
        rcases Json.read_eq_ok_iff.mp reads with ⟨written, isWritten, _⟩
        have unique := distinct.2 branch written isWritten
        cases reads.symm.trans (Json.read_lastWins_of_distinctKeys isWritten unique)
        have strictly := Json.read_strict_eq_ok_iff.mpr ⟨isWritten, unique⟩
        exact (readContent_of_not_readsYaml branch).mpr ⟨value, strictly, rfl, isMapping⟩

/-- A text that merges one mapping into another one. -/
def mergingText : String := "a: &m\n  k: 1\nb:\n  <<: *m\n  j: 2\n"

theorem readContent_refines_plain_of_merge :
    Yaml.RegularText mergingText ∧ Exists fun tree => readContent .yaml mergingText = .ok tree ∧
      ReadsPlainly .yaml mergingText tree ∧ DistinctKeys .yaml mergingText := by
  have regular : Yaml.RegularText mergingText := fun graph isGraph =>
    Yaml.Graph.regular_of_passes
      (Outcome.part_eq_of_computed isGraph (Yaml.Graph.passes Yaml.Graph.isRegularAt)
        (by decide +kernel))
  have isOk : (readContent .yaml mergingText).isOk = true := by decide +kernel
  rcases Outcome.exists_of_isOk isOk with ⟨tree, reads⟩
  exact ⟨regular, tree, reads, (readContent_refines_plain fun _ => regular).1 tree reads⟩

/-- A value key becomes a text when the mapping around it is expanded.  The alias of one is read
before that by a strict loader, which goes through mappings at once, and after it by a plain one. -/
def aliasedValueKey : String := "x:\n- &a = : 1\ny:\n  z:\n    w: *a\n"

/-- A text can be refused in which no key is repeated and no mapping lies inside itself. -/
theorem refused_aliasedValueKey :
    (Exists fun entries => Exists fun label =>
        ReadsPlainly .yaml aliasedValueKey (.map entries label)) ∧
      DistinctKeys .yaml aliasedValueKey ∧ ¬ Yaml.NestsItself aliasedValueKey ∧
        forall tree, readContent .yaml aliasedValueKey ≠ .ok tree := by
  refine ⟨?_, ⟨fun _ => ?_, fun other => absurd (.inl rfl) other⟩, ?_, fun tree reads => ?_⟩
  · have plainly : (Yaml.read .plain aliasedValueKey).isOk = true := by decide +kernel
    rcases Outcome.exists_of_isOk plainly with ⟨tree, reads⟩
    have isOk : (requireMapping tree).isOk = true :=
      Outcome.part_eq_of_computed reads (fun tree => (requireMapping tree).isOk) (by decide +kernel)
    rcases Outcome.exists_of_isOk isOk with ⟨_, maps⟩
    rcases requireMapping_eq_ok_iff.mp maps with ⟨rfl, entries, label, rfl⟩
    exact ⟨entries, label, .yaml (.inl rfl) reads⟩
  · rintro graph index ⟨isGraph, _⟩
    exact Yaml.Graph.distinctKeys_of_passes (Outcome.part_eq_of_computed isGraph
      (Yaml.Graph.passes Yaml.Graph.hasDistinctKeysAt) (by decide +kernel)) index
  · rintro ⟨graph, index, ⟨isGraph, _⟩, nests⟩
    exact Yaml.Graph.not_nestsItself_of_passes (Outcome.part_eq_of_computed isGraph
      (Yaml.Graph.passes Yaml.Graph.nestsDownAt) (by decide +kernel)) index nests
  · have fails : (readContent .yaml aliasedValueKey).isOk = false := by decide +kernel
    rw [reads] at fails
    cases fails

end Source
end RouteIR
