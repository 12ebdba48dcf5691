import RouteIR.Proofs.Yaml.Composition
import RouteIR.Proofs.Yaml.Denotation
import RouteIR.Proofs.Yaml.Run

namespace RouteIR
namespace Yaml

/-!
# Faults of construction

A strict loader constructs values from the nodes of a graph.  What goes wrong has a message where
no node promises more than it keeps: a key is no collection and has a text, nothing but a mapping
that is not empty is taken for one, and the text of a scalar has a value of its tag, or there is a
message.

Merge keys move entries between mappings, and a value key becomes a text, so the nodes change while
they are evaluated.  What does not change is enough: the keys of a mapping stay keys of the
graph, and no node changes its kind.
-/

open Std.Do

set_option mvcgen.warning false

/-- The tags of values that are no keys. -/
def collectionTags : List String := ["seq", "set", "omap", "pairs", "map"].map Tag.core

namespace Graph

variable (graph : Graph)

/-- A node that is written as the key of an entry. -/
def IsKey (key : Nat) : Prop :=
  Exists fun index => Exists fun value => (key, value) ∈ graph.entries index

def IsMapping (index : Nat) : Prop :=
  Exists fun entries => (graph.node index).content = .mapping entries

/-- No node promises more than it keeps. -/
structure Honest : Prop where
  keys : forall key, graph.IsKey key -> (graph.node key).tag ∉ collectionTags
  legible : forall key text, graph.IsKey key -> (graph.node key).content = .scalar text ->
    forall value, Scalar.value (key + 1) (graph.node key).tag text (graph.node key).start =
      .ok value -> value.isLegible = true
  mappings : forall index, (graph.node index).tag = Tag.core "map" ->
    graph.IsMapping index ∨ (graph.node index).content = .scalar "" ∨
      (graph.node index).content = .sequence []
  texts : forall index text, (graph.node index).content = .scalar text ->
    Evaluate.scalarTags.contains (graph.node index).tag = true -> forall failure,
      Scalar.value (index + 1) (graph.node index).tag text (graph.node index).start =
        .error failure -> failure.Told
  /-- A mapping that stands for a scalar has no text to lend. -/
  lent : forall index, graph.IsMapping index ->
    Evaluate.scalarTags.contains (graph.node index).tag = true ∨
      (graph.node index).tag = Tag.core "value" ->
    forall other, (graph.node other).tag ≠ Tag.core "value"

/-- The shape of a scalar can be a key, and has a text where the node is one. -/
inductive ScalarShape (index : Nat) : Shape -> Prop
  | intro {value : Tree} {identity : Identity} (identified : value.identity = .ok identity)
      (legible : graph.IsKey index -> value.isLegible = true) : ScalarShape index (.scalar value)

/-- What is true of every state in which some nodes are active. -/
structure Usual (active : List Nat) (state : Evaluation) : Prop where
  size : state.shapes.size = graph.nodes.size
  active : state.active = active
  tag : forall index, (state.node index).tag = (graph.node index).tag ∨
    (graph.node index).tag = Tag.core "value" ∧ (state.node index).tag = Tag.core "str"
  start : forall index, (state.node index).start = (graph.node index).start
  content : forall index, (state.node index).content = (graph.node index).content ∨
    (Exists fun entries => (state.node index).content = .mapping entries) ∧ graph.IsMapping index
  keys : forall index entry, entry ∈ state.entries index -> graph.IsKey entry.1
  shapes : forall index shape, state.shape? index = some shape ->
    (graph.node index).tag ∈ collectionTags ∨ graph.ScalarShape index shape
  pending : forall index, index ∈ state.pending -> (graph.node index).tag ∈ collectionTags

/-- A step that keeps all this and fails with a message. -/
abbrev Runs (active : List Nat) {α : Type} (step : Evaluate α) (post : α -> Evaluation -> Prop) :
    Prop :=
  ⦃fun state => ⌜graph.Usual active state⌝⦄ step
    ⦃post⟨fun value state => ⌜graph.Usual active state ∧ post value state⌝,
      fun failure => ⌜failure.Told⌝⟩⦄

variable {graph} {active : List Nat} {state : Evaluation}

/-! ## Changes of the state -/

/-- A node can change as long as the change is none for the graph. -/
theorem Usual.withNode (usual : graph.Usual active state) {index : Nat} {node : Node}
    (inTable : index < state.nodes.size)
    (tag : node.tag = (graph.node index).tag ∨
      (graph.node index).tag = Tag.core "value" ∧ node.tag = Tag.core "str")
    (start : node.start = (graph.node index).start)
    (content : node.content = (graph.node index).content ∨
      (Exists fun entries => node.content = .mapping entries) ∧ graph.IsMapping index)
    (keys : forall entries, node.content = .mapping entries ->
      forall entry, entry ∈ entries -> graph.IsKey entry.1) :
    graph.Usual active (state.withNode index node) := by
  have here : (state.withNode index node).node index = node :=
    Evaluation.node_withNode_self node inTable
  have others {other : Nat} (differs : other ≠ index) :
      (state.withNode index node).node other = state.node other :=
    Evaluation.node_withNode_of_ne node differs
  refine ⟨usual.size, usual.active, fun other => ?_, fun other => ?_, fun other => ?_,
    fun other entry member => ?_, usual.shapes, usual.pending⟩
  all_goals by_cases same : other = index
  · rwa [same, here]
  · exact others same ▸ usual.tag other
  · rwa [same, here]
  · exact others same ▸ usual.start other
  · rwa [same, here]
  · exact others same ▸ usual.content other
  · rw [Evaluation.entries, same, here] at member
    split at member
    · next entries isMapping => exact keys entries isMapping entry member
    · exact absurd member List.not_mem_nil
  · rw [Evaluation.entries, others same] at member
    exact usual.keys other entry member

theorem Usual.exists_mapping_iff (usual : graph.Usual active state) {index : Nat} :
    (Exists fun entries => (state.node index).content = .mapping entries) ↔
      graph.IsMapping index := by
  rcases usual.content index with same | ⟨here, written⟩
  · rw [same, IsMapping]
  · exact ⟨fun _ => written, fun _ => here⟩

theorem Usual.scalar (usual : graph.Usual active state) {index : Nat} {text : String}
    (content : (state.node index).content = .scalar text) :
    (graph.node index).content = .scalar text := by
  rcases usual.content index with same | ⟨⟨entries, mapping⟩, _⟩
  · rw [← same, content]
  · cases content.symm.trans mapping

theorem Usual.isMapping_of_mem (usual : graph.Usual active state) {index : Nat}
    {entry : Nat × Nat} (member : entry ∈ state.entries index) : graph.IsMapping index := by
  refine usual.exists_mapping_iff.mp ?_
  rw [Evaluation.entries] at member
  split at member
  · next entries isMapping => exact ⟨entries, isMapping⟩
  · exact absurd member List.not_mem_nil

theorem Usual.withEntries (usual : graph.Usual active state) {index : Nat}
    {entries : List (Nat × Nat)} (mapping : graph.IsMapping index)
    (keys : forall entry, entry ∈ entries -> graph.IsKey entry.1) :
    graph.Usual active
      (state.withNode index { state.node index with content := .mapping entries }) := by
  rcases usual.exists_mapping_iff.mpr mapping with ⟨before, content⟩
  refine usual.withNode (Evaluation.lt_size_of_content content) (usual.tag index)
    (usual.start index) (.inr ⟨⟨entries, rfl⟩, mapping⟩) ?_
  rintro _ ⟨⟩
  exact keys

/-- A value key becomes a text. -/
theorem Usual.withText (usual : graph.Usual active state) {index : Nat}
    (tag : (state.node index).tag = Tag.core "value") :
    graph.Usual active
      (state.withNode index { state.node index with tag := Tag.core "str" }) := by
  have inTable : index < state.nodes.size := by
    refine Nat.lt_of_not_le fun beyond => ?_
    rw [Evaluation.node, Array.getElem?_eq_none beyond] at tag
    exact absurd tag (by decide)
  have written : (graph.node index).tag = Tag.core "value" := by
    rcases usual.tag index with same | ⟨isValue, _⟩
    · rw [← same, tag]
    · exact isValue
  refine usual.withNode inTable (.inr ⟨written, rfl⟩) (usual.start index) (usual.content index) ?_
  intro entries isMapping entry member
  refine usual.keys index entry ?_
  rw [Evaluation.entries_of_content isMapping]
  exact member

theorem Usual.withShape (usual : graph.Usual active state) {index : Nat} {shape : Shape}
    (fits : (graph.node index).tag ∈ collectionTags ∨ graph.ScalarShape index shape) :
    graph.Usual active (state.withShape index shape) := by
  refine ⟨(Evaluation.size_withShape state index shape).trans usual.size, usual.active, usual.tag,
    usual.start, usual.content, usual.keys, fun other found isFound => ?_, usual.pending⟩
  by_cases same : other = index
  · subst same
    by_cases inTable : other < state.shapes.size
    · rw [Evaluation.shape?, Evaluation.shapes_withShape_self shape inTable] at isFound
      cases isFound
      exact fits
    · have unchanged : (state.withShape other shape).shape? other = state.shape? other := by
        simp [Evaluation.shape?, Evaluation.withShape, inTable]
      rw [unchanged] at isFound
      exact usual.shapes other found isFound
  · rw [Evaluation.shape?, Evaluation.shapes_withShape_of_ne shape same] at isFound
    exact usual.shapes other found isFound

theorem Usual.withActive (usual : graph.Usual active state) (other : List Nat) :
    graph.Usual other { state with active := other } :=
  ⟨usual.size, rfl, usual.tag, usual.start, usual.content, usual.keys, usual.shapes, usual.pending⟩

end Graph

/-! ## Merge keys -/

namespace Evaluate

variable {graph : Graph} {active : List Nat} {flatten : Nat -> Evaluate Unit}

/-- Entries whose keys are keys of the graph. -/
def KeysOf (graph : Graph) (entries : List (Nat × Nat)) : Prop :=
  forall entry, entry ∈ entries -> graph.IsKey entry.1

theorem keysOf_nil : KeysOf graph [] := nofun

theorem KeysOf.append {first second : List (Nat × Nat)} (left : KeysOf graph first)
    (right : KeysOf graph second) : KeysOf graph (first ++ second) :=
  fun entry member => (List.mem_append.mp member).elim (left entry) (right entry)

theorem KeysOf.eraseIdx {entries : List (Nat × Nat)} (keys : KeysOf graph entries)
    (position : Nat) : KeysOf graph (entries.eraseIdx position) :=
  fun entry member => keys entry (List.mem_of_mem_eraseIdx member)

theorem keysOf_entries {state : Evaluation} (usual : graph.Usual active state) (index : Nat) :
    KeysOf graph (state.entries index) := usual.keys index

/-- What merge keys bring to a mapping. -/
structure Brought (graph : Graph) (index : Nat) (entries : List (Nat × Nat)) : Prop where
  keys : KeysOf graph entries
  mapping : entries ≠ [] -> graph.IsMapping index

theorem brought_nil (index : Nat) : Brought graph index [] :=
  ⟨keysOf_nil, fun filled => absurd rfl filled⟩

/-- A step that ends without fault meets every triple with what is true of its end. -/
theorem triple_of_ends {α : Type} {step : Evaluate α} {before : Evaluation -> Prop}
    {post : α -> Evaluation -> Prop} {fault : Failure -> Prop}
    (ends : forall state, before state -> Ends step state False post) :
    ⦃fun state => ⌜before state⌝⦄ step
      ⦃post⟨fun value state => ⌜post value state⌝, fun failure => ⌜fault failure⌝⟩⦄ := by
  refine triple_iff.mpr fun state holds => ?_
  have ended := ends state holds
  rw [Ends] at ended
  rw [StateT.run]
  cases outcome : step state with
  | ok result =>
      rw [outcome] at ended
      exact ended
  | error failure =>
      rw [outcome] at ended
      exact ended.elim

theorem runs_entries (graph : Graph) (active : List Nat) (index : Nat) :
    graph.Runs active (Evaluate.entries index) fun entries state =>
      entries = state.entries index :=
  triple_of_ends fun _ usual => ends_entries_iff.mpr ⟨usual, rfl⟩

theorem runs_listedEntries
    (flattens : forall index, graph.Runs active (flatten index) fun _ _ => True) (index : Nat)
    (items : List Nat) :
    graph.Runs active (listedEntries flatten index items) fun entries _ =>
      KeysOf graph entries := by
  have entries := runs_entries graph active
  induction items with
  | nil =>
      mvcgen [listedEntries]
      exact ⟨‹_›, keysOf_nil⟩
  | cons item rest ih =>
      mvcgen [listedEntries, Evaluate.node, flattens, entries, ih]
      · assumption
      · grind
      · grind [KeysOf.append, keysOf_entries]
      · exact fun _ => rfl

theorem runs_broughtEntries
    (flattens : forall index, graph.Runs active (flatten index) fun _ _ => True)
    (index value : Nat) :
    graph.Runs active (broughtEntries flatten index value) fun entries _ =>
      KeysOf graph entries := by
  have entries := runs_entries graph active
  have listed := runs_listedEntries flattens index
  mvcgen [broughtEntries, Evaluate.node, flattens, entries, listed]
  · assumption
  · grind [keysOf_entries]
  · exact fun _ => rfl

theorem runs_mergedEntries
    (flattens : forall index, graph.Runs active (flatten index) fun _ _ => True)
    (index steps position : Nat) :
    graph.Runs active (mergedEntries flatten index steps position) fun entries _ =>
      Brought graph index entries := by
  have entries := runs_entries graph active
  have brought := runs_broughtEntries flattens index
  induction steps generalizing position with
  | zero =>
      mvcgen [mergedEntries]
      exact ⟨‹_›, brought_nil index⟩
  | succ steps ih =>
      mvcgen [mergedEntries, Evaluate.node, setEntries, setTag, entries, brought, ih]
      · grind [brought_nil]
      · next here _ _ found state kept _ _ _ =>
          have mapping := kept.1.isMapping_of_mem (kept.2 ▸ List.mem_of_getElem? found)
          refine kept.1.withEntries mapping (KeysOf.eraseIdx ?_ _)
          rw [kept.2]
          exact keysOf_entries kept.1 index
      · grind
      · next found _ kept _ _ _ _ _ first _ _ rest =>
          have mapping := kept.1.isMapping_of_mem (kept.2 ▸ List.mem_of_getElem? found)
          exact ⟨rest.1, first.2.append rest.2.keys, fun _ => mapping⟩
      · next kept _ _ _ isValue _ => exact kept.1.withText isValue
      · grind

/-- Merge keys are expanded, or there is a message. -/
theorem runs_flatten (graph : Graph) (active : List Nat) (depth index : Nat) :
    graph.Runs active (Evaluate.flatten depth index) fun _ _ => True := by
  have entries := runs_entries graph active
  induction depth generalizing index with
  | zero => mvcgen [Evaluate.flatten]
  | succ depth ih =>
      have merged := runs_mergedEntries ih
      mvcgen [Evaluate.flatten, setEntries, entries, merged]
      · grind
      · grind
      · next filled _ brought _ _ kept _ =>
          refine kept.1.withEntries (brought.2.mapping ?_) (brought.2.keys.append ?_)
          · rintro rfl
            cases filled
          · rw [kept.2]
            exact keysOf_entries kept.1 index
      · grind

/-! ## Scalars -/

theorem not_value_of_usual {state : Evaluation} (usual : graph.Usual active state)
    (absent : forall other, (graph.node other).tag ≠ Tag.core "value") (index : Nat) :
    (state.node index).tag ≠ Tag.core "value" := by
  rcases usual.tag index with same | ⟨written, _⟩
  · rw [same]
    exact absent index
  · exact absurd written (absent index)

theorem tag_of_isScalar {state : Evaluation} (usual : graph.Usual active state) {index : Nat}
    (isScalar : scalarTags.contains (state.node index).tag = true) :
    scalarTags.contains (graph.node index).tag = true ∨
      (graph.node index).tag = Tag.core "value" := by
  rcases usual.tag index with same | ⟨written, _⟩
  · exact .inl (same ▸ isScalar)
  · exact .inr written

/-- What is a scalar by its tag has a text of its own, or there is a message. -/
theorem runs_scalarText (honest : graph.Honest) {depth index : Nat} (positive : 0 < depth)
    {before : Evaluation} (usual : graph.Usual active before)
    (isScalar : scalarTags.contains (before.node index).tag = true) :
    ⦃fun state => ⌜state = before⌝⦄ scalarText depth index
      ⦃post⟨fun text state => ⌜state = before ∧ (before.node index).content = .scalar text⌝,
        fun failure => ⌜failure.Told⌝⟩⦄ := by
  rcases Nat.exists_eq_add_one_of_ne_zero (Nat.ne_of_gt positive) with ⟨depth, rfl⟩
  mvcgen [scalarText, Evaluate.node]
  · grind
  · exact fun _ => rfl
  · next state same entries content _ key _ found =>
      subst same
      have mapping := usual.exists_mapping_iff.mp ⟨entries, content⟩
      have absent := honest.lent index mapping (tag_of_isScalar usual isScalar)
      have isValue := List.find?_some found
      exact absurd (of_decide_eq_true isValue) (not_value_of_usual usual absent _)
  · exact fun _ => rfl

theorem exists_identity_of_timestamp {text : String} {value : Tree}
    (isValue : Scalar.timestampValue text = .ok value) :
    Exists fun identity => value.identity = .ok identity := by
  rw [Scalar.timestampValue] at isValue
  split at isValue
  · cases isValue
  · split at isValue
    · dsimp only at isValue
      split at isValue
      · cases isValue
        exact ⟨_, rfl⟩
      · cases isValue
    · dsimp only at isValue
      split at isValue
      · cases isValue
        rw [Tree.identity]
        split
        · exact ⟨_, rfl⟩
        · exact ⟨_, rfl⟩
      · cases isValue

/-- What a scalar denotes can be a key. -/
theorem exists_identity_of_value {origin : Nat} {tag text : String} {place : Mark} {value : Tree}
    (isValue : Scalar.value origin tag text place = .ok value) :
    Exists fun identity => value.identity = .ok identity := by
  rw [Scalar.value] at isValue
  split at isValue
  · cases isValue
    exact ⟨_, rfl⟩
  split at isValue
  · rcases Outcome.bind_eq_ok_iff.mp isValue with ⟨_, _, made⟩
    cases made
    exact ⟨_, rfl⟩
  split at isValue
  · rcases Outcome.bind_eq_ok_iff.mp isValue with ⟨_, _, made⟩
    cases made
    exact ⟨_, rfl⟩
  split at isValue
  · rcases Outcome.bind_eq_ok_iff.mp isValue with ⟨_, _, made⟩
    cases made
    exact ⟨_, rfl⟩
  split at isValue
  · rcases Outcome.bind_eq_ok_iff.mp isValue with ⟨_, _, made⟩
    cases made
    exact ⟨_, rfl⟩
  split at isValue
  · exact exists_identity_of_timestamp isValue
  split at isValue
  · cases isValue
    exact ⟨_, rfl⟩
  · cases isValue

/-- The text of a scalar has a value, or there is a message. -/
theorem told_of_value (honest : graph.Honest) {state : Evaluation}
    (usual : graph.Usual active state) {index : Nat} {text : String}
    (isScalar : scalarTags.contains (state.node index).tag = true)
    (content : (state.node index).content = .scalar text) {failure : Failure}
    (fails : Scalar.value (index + 1) (state.node index).tag text (state.node index).start =
      .error failure) : failure.Told := by
  have written := usual.scalar content
  rcases usual.tag index with same | ⟨_, isText⟩
  · rw [same] at fails isScalar
    rw [usual.start] at fails
    exact honest.texts index text written isScalar failure fails
  · rw [isText] at fails
    cases fails

/-- The value of a key has a text. -/
theorem isLegible_of_value (honest : graph.Honest) {state : Evaluation}
    (usual : graph.Usual active state) {index : Nat} (isKey : graph.IsKey index) {text : String}
    (content : (state.node index).content = .scalar text) {value : Tree}
    (isValue : Scalar.value (index + 1) (state.node index).tag text (state.node index).start =
      .ok value) : value.isLegible = true := by
  have written := usual.scalar content
  rcases usual.tag index with same | ⟨_, isText⟩
  · rw [same, usual.start] at isValue
    exact honest.legible index text isKey written value isValue
  · rw [isText] at isValue
    cases isValue
    rfl

/-- The value of a scalar can be a key. -/
theorem runs_scalar (honest : graph.Honest) {depth index : Nat} (positive : 0 < depth)
    {before : Evaluation} (usual : graph.Usual active before)
    (isScalar : scalarTags.contains (before.node index).tag = true) :
    ⦃fun state => ⌜state = before⌝⦄ scalar depth index
      ⦃post⟨fun value state => ⌜state = before ∧ graph.ScalarShape index (.scalar value)⌝,
        fun failure => ⌜failure.Told⌝⟩⦄ := by
  have texts := runs_scalarText honest positive usual isScalar
  mvcgen [scalar, Evaluate.node, texts]
  · next same _ _ disguised _ read =>
      subst same
      rw [read.2] at disguised
      simp [Content.kind] at disguised
  · next state same text _ _ after read =>
      subst same
      rcases read with ⟨rfl, content⟩
      cases value : Scalar.value (index + 1) (after.node index).tag text (after.node index).start with
      | ok value =>
          rcases exists_identity_of_value value with ⟨identity, identified⟩
          refine ⟨rfl, .intro identified ?_⟩
          exact fun isKey => isLegible_of_value honest usual isKey content value
      | error failure => exact told_of_value honest usual isScalar content value

/-! ## Collections -/

/-- A node has been evaluated. -/
def HasShape (index : Nat) (state : Evaluation) : Prop := (state.shape? index).isSome = true

/-- The key of an entry that has been evaluated is no collection. -/
theorem runs_keyOf (honest : graph.Honest) (active : List Nat) {key : Nat}
    (isKey : graph.IsKey key) :
    ⦃fun state => ⌜graph.Usual active state ∧ HasShape key state⌝⦄ keyOf key
      ⦃post⟨fun found state => ⌜graph.Usual active state ∧
          Exists fun keyed => found = .ok keyed ∧ keyed.2.isLegible = true⌝,
        fun failure => ⌜failure.Told⌝⟩⦄ := by
  refine triple_of_ends fun state kept => ?_
  rcases Option.isSome_iff_exists.mp kept.2 with ⟨shape, found⟩
  rcases kept.1.shapes key shape found with collection | @⟨value, identity, identified, legible⟩
  · exact absurd collection (honest.keys key isKey)
  · rw [keyOf, ends_bind_iff, ends_get_iff, found]
    refine ends_pure_iff.mpr ⟨kept.1, (identity, value), ?_, legible isKey⟩
    rw [identified]
    rfl

variable {evaluate : Nat -> Evaluate Unit}

theorem told_duplicateKey {mapping place : Mark} {key : Tree} (legible : key.isLegible = true) :
    (Failure.duplicateKey mapping key place).Told := by
  intro text
  rw [Failure.message?, if_pos legible]
  rfl

theorem runs_uniqueKeys (honest : graph.Honest)
    (shapes : forall index, graph.Runs active (evaluate index) fun _ state => HasShape index state)
    (start : Mark) (seen : List Identity) {entries : List (Nat × Nat)}
    (keys : KeysOf graph entries) :
    graph.Runs active (uniqueKeys evaluate start seen entries) fun _ _ => True := by
  induction entries generalizing seen with
  | nil => mvcgen [uniqueKeys]
  | cons entry rest ih =>
      rcases entry with ⟨key, value⟩
      have later := fun seen => ih seen fun entry member => keys entry (List.mem_cons_of_mem _ member)
      have found := runs_keyOf honest active (keys (key, value) List.mem_cons_self)
      mvcgen [uniqueKeys, Evaluate.node, shapes, found, later]
      · grind
      · next kept =>
          rcases kept.2 with ⟨_, ⟨⟩, legible⟩
          exact told_duplicateKey legible
      · grind

theorem runs_hashableEntries
    (shapes : forall index, graph.Runs active (evaluate index) fun _ state => HasShape index state)
    (start : Mark) (entries : List (Nat × Nat)) :
    graph.Runs active (hashableEntries evaluate start entries) fun _ _ => True := by
  have found (key : Nat) : graph.Runs active (keyOf key) fun _ _ => True := by
    mvcgen [keyOf]
  induction entries with
  | nil => mvcgen [hashableEntries]
  | cons entry rest ih =>
      mvcgen [hashableEntries, Evaluate.node, shapes, found, ih]
      · grind
      · exact fun _ => rfl
      · grind
      · grind

theorem runs_orderedPairs
    (shapes : forall index, graph.Runs active (evaluate index) fun _ state => HasShape index state)
    (start : Mark) (activity : Activity) (items : List Nat) :
    graph.Runs active (orderedPairs evaluate start activity items) fun _ _ => True := by
  induction items with
  | nil => mvcgen [orderedPairs]
  | cons item rest ih =>
      mvcgen [orderedPairs, Evaluate.node, shapes, ih]
      · grind
      · grind
      · exact fun _ => rfl
      · exact fun _ => rfl

theorem runs_forM {α : Type} {step : α -> Evaluate Unit}
    (each : forall item, graph.Runs active (step item) fun _ _ => True) (items : List α) :
    graph.Runs active (items.forM step) fun _ _ => True := by
  induction items with
  | nil => mvcgen [List.forM]
  | cons item rest ih =>
      mvcgen [List.forM, each, ih]
      assumption

/-- What is taken for a mapping and is none is empty. -/
theorem empty_of_tag (honest : graph.Honest) {state : Evaluation}
    (usual : graph.Usual active state) {index : Nat}
    (tag : (graph.node index).tag = Tag.core "map") :
    (Exists fun entries => (state.node index).content = .mapping entries) ∨
      (state.node index).content = .scalar "" ∨ (state.node index).content = .sequence [] := by
  rcases usual.content index with same | ⟨mapping, _⟩
  · rw [same]
    exact honest.mappings index tag
  · exact .inl mapping

/-- A mapping that is evaluated at once has a shape, or there is a message. -/
theorem runs_uniqueEntries (honest : graph.Honest)
    (shapes : forall index, graph.Runs active (evaluate index) fun _ state => HasShape index state)
    (bound : Nat) {index : Nat} (tag : (graph.node index).tag = Tag.core "map") :
    graph.Runs active (uniqueEntries bound evaluate index) fun _ _ => True := by
  have flattens := runs_flatten graph active bound
  have entries := runs_entries graph active index
  have keys {entries : List (Nat × Nat)} (areKeys : KeysOf graph entries) (start : Mark) :=
    runs_uniqueKeys honest shapes start [] areKeys
  have values (pairs : List (Nat × Nat)) :
      graph.Runs active (pairs.forM fun pair => evaluate pair.2) fun _ _ => True :=
    runs_forM (fun pair => by mvcgen [shapes]; grind) pairs
  mvcgen [uniqueEntries, Evaluate.node, flattens, entries, keys, values]
  · exact fun _ => rfl
  · next usual _ content _ filled =>
      refine absurd ?_ filled
      rcases empty_of_tag honest usual tag with ⟨_, mapping⟩ | empty | empty
      · cases content.symm.trans mapping
      · cases content.symm.trans empty
        rfl
      · cases content.symm.trans empty
  · exact fun _ => rfl
  · next usual _ content _ filled =>
      refine absurd ?_ filled
      rcases empty_of_tag honest usual tag with ⟨_, mapping⟩ | empty | empty
      · cases content.symm.trans mapping
      · cases content.symm.trans empty
      · cases content.symm.trans empty
        rfl
  · assumption
  · grind [keysOf_entries]
  · grind
  · assumption

theorem runs_queuedEntries
    (shapes : forall index, graph.Runs active (evaluate index) fun _ state => HasShape index state)
    (bound index : Nat) :
    graph.Runs active (queuedEntries bound evaluate index) fun _ _ => True := by
  have flattens := runs_flatten graph active bound
  have entries := runs_entries graph active index
  have keys := runs_hashableEntries shapes
  mvcgen [queuedEntries, Evaluate.node, flattens, entries, keys]
  · assumption
  · grind
  · exact fun _ => rfl

theorem runs_queuedShape
    (shapes : forall index, graph.Runs active (evaluate index) fun _ state => HasShape index state)
    (bound index : Nat) :
    graph.Runs active (queuedShape bound evaluate index) fun _ _ => True := by
  have items (items : List Nat) : graph.Runs active (items.forM evaluate) fun _ _ => True :=
    runs_forM (fun item => by mvcgen [shapes]; grind) items
  have entries := runs_queuedEntries shapes
  have pairs := runs_orderedPairs shapes
  mvcgen [queuedShape, Evaluate.node, items, entries, pairs]
  · exact fun _ => rfl
  · exact fun _ => rfl

/-! ## All nodes -/

/-- The tags of a strict loader's queue are those of collections. -/
theorem mem_collectionTags_of_isQueued {state : Evaluation} (usual : graph.Usual active state)
    {index : Nat} (queued : isQueued .strict (state.node index).tag = true) :
    (graph.node index).tag ∈ collectionTags := by
  rcases usual.tag index with same | ⟨_, isText⟩
  · rw [same] at queued
    simp only [isQueued, queuedTags, Bool.or_eq_true, Bool.and_eq_true, decide_eq_true_eq,
      List.contains_iff_mem, reduceCtorEq, false_and, or_false] at queued
    simp only [collectionTags, List.map_cons, List.map_nil, List.mem_cons, List.not_mem_nil,
      or_false] at queued ⊢
    tauto
  · rw [isText] at queued
    exact absurd queued (by decide)

theorem tag_of_isMap {state : Evaluation} (usual : graph.Usual active state) {index : Nat}
    (isMap : (state.node index).tag = Tag.core "map") :
    (graph.node index).tag = Tag.core "map" := by
  rcases usual.tag index with same | ⟨_, isText⟩
  · rw [← same, isMap]
  · rw [isText] at isMap
    exact absurd isMap (by decide)

/-- A node without shape is in the table. -/
theorem lt_size_of_unshaped {state : Evaluation} (usual : graph.Usual active state) {index : Nat}
    (unshaped : ¬ (state.shape? index).isSome = true) : index < graph.nodes.size := by
  rw [← usual.size]
  refine Nat.lt_of_not_le fun beyond => unshaped ?_
  rw [Evaluation.shape?, Array.getElem?_eq_none beyond]
  rfl

theorem hasShape_withShape (state : Evaluation) (index : Nat) (shape : Shape) :
    HasShape index (state.withShape index shape) := by
  by_cases inTable : index < state.shapes.size
  · rw [HasShape, Evaluation.shape?, Evaluation.shapes_withShape_self shape inTable]
    rfl
  · simp [HasShape, Evaluation.shape?, Evaluation.withShape, inTable]

theorem usual_activate {state : Evaluation} (usual : graph.Usual active state) (index : Nat) :
    graph.Usual (index :: active) { state with active := index :: state.active } := by
  have activated := usual.withActive (index :: state.active)
  rwa [usual.active] at activated ⊢

/-- A node that waits in the queue has its shape for the time being. -/
theorem usual_enqueue {state : Evaluation} (usual : graph.Usual active state) {index : Nat}
    (collection : (graph.node index).tag ∈ collectionTags) :
    graph.Usual active
        { state.withShape index (.list []) with
          active := (index :: state.active).erase index
          pending := state.pending ++ [index] } := by
  have shaped : graph.Usual active (state.withShape index (.list [])) :=
    usual.withShape (.inl collection)
  rw [List.erase_cons_head]
  refine ⟨shaped.size, shaped.active, shaped.tag, shaped.start, shaped.content, shaped.keys,
    shaped.shapes, fun other waits => ?_⟩
  rcases List.mem_append.mp waits with before | new
  · exact usual.pending other before
  · exact List.mem_singleton.mp new ▸ collection

/-- A node that is no longer active has its shape. -/
theorem usual_finish {state : Evaluation} {index : Nat} {shape : Shape}
    (usual : graph.Usual (index :: active) state)
    (fits : (graph.node index).tag ∈ collectionTags ∨ graph.ScalarShape index shape) :
    graph.Usual active
      { state.withShape index shape with
        active := (state.withShape index shape).active.erase index } := by
  have finished := (usual.withShape fits).withActive
    ((state.withShape index shape).active.erase index)
  have popped : (state.withShape index shape).active.erase index = active := by
    change state.active.erase index = active
    rw [usual.active, List.erase_cons_head]
  rwa [popped] at finished ⊢

/-- A strict loader evaluates a node, or there is a message. -/
theorem runs_evaluate (honest : graph.Honest) {bound depth : Nat} (positive : 0 < bound)
    {active : List Nat} (room : graph.Room active depth) (index : Nat) :
    graph.Runs active (Evaluate.evaluate .strict bound depth index) fun _ state =>
      HasShape index state := by
  induction depth generalizing active index with
  | zero => exact absurd room Graph.not_room_zero
  | succ depth ih =>
      have inner (fresh : index ∉ active) (isNode : index < graph.nodes.size) (other : Nat) :=
        ih (room.enter fresh isNode) other
      have unique (fresh : index ∉ active) (isNode : index < graph.nodes.size)
          (tag : (graph.node index).tag = Tag.core "map") :=
        runs_uniqueEntries honest (inner fresh isNode) bound tag
      have scalars {before : Evaluation} (usual : graph.Usual (index :: active) before)
          (isScalar : scalarTags.contains (before.node index).tag = true) :=
        runs_scalar honest positive usual isScalar
      clear ih inner
      mvcgen [Evaluate.evaluate, Evaluate.node, setShape, unique, scalars]
      · exact fun _ => rfl
      · next usual _ _ _ _ _ queued _ _ _ =>
          exact ⟨usual_enqueue usual (mem_collectionTags_of_isQueued usual queued),
            hasShape_withShape _ _ _⟩
      · next usual _ _ fresh _ _ _ _ =>
          rw [usual.active] at fresh
          simpa using fresh
      · next usual unshaped _ _ _ _ _ _ => exact lt_size_of_unshaped usual unshaped
      · next usual _ _ _ _ _ _ isMap => exact tag_of_isMap usual isMap
      · next usual _ _ _ _ _ _ _ => exact usual_activate usual index
      · next usual _ _ _ _ _ _ isMap _ _ _ _ later =>
          have collection : (graph.node index).tag ∈ collectionTags := by
            rw [tag_of_isMap usual isMap]
            decide
          exact ⟨usual_finish later (.inl collection), hasShape_withShape _ _ _⟩
      · next usual _ _ _ _ _ _ _ _ => exact usual_activate usual index
      · next usual _ _ _ _ _ _ _ _ _ _ read _ _ =>
          rcases read with ⟨rfl, fits⟩
          exact ⟨usual_finish (usual_activate usual index) (.inr fits), hasShape_withShape _ _ _⟩
      · exact fun _ => rfl

theorem usual_dequeue {state : Evaluation} (usual : graph.Usual active state) {index : Nat}
    {rest : List Nat} (queue : state.pending = index :: rest) :
    graph.Usual active { state with pending := rest } :=
  { usual with pending := fun other waits => usual.pending other (queue ▸ List.mem_cons_of_mem _ waits) }

/-- The queue is worked off, or there is a message. -/
theorem runs_completeAll
    (shapes : forall index, graph.Runs active (evaluate index) fun _ state => HasShape index state)
    (bound rounds : Nat) :
    graph.Runs active (completeAll bound evaluate rounds) fun _ _ => True := by
  have shape := runs_queuedShape shapes bound
  induction rounds with
  | zero => mvcgen [completeAll]
  | succ rounds ih =>
      mvcgen [completeAll, setShape, shape, ih]
      · next usual _ _ queue _ => exact usual_dequeue usual queue
      · next usual _ _ queue _ _ _ _ later =>
          have collection := usual.pending _ (queue ▸ List.mem_cons_self)
          exact later.withShape (.inl collection)

end Evaluate

namespace Graph

variable {graph : Graph}

theorem usual_unevaluated : graph.Usual [] graph.unevaluated := by
  refine ⟨Array.size_replicate, rfl, fun _ => .inl rfl, fun _ => rfl, fun _ => .inl rfl,
    fun index entry member => ⟨index, entry.2, member⟩, fun index shape found => ?_, nofun⟩
  rw [Evaluation.shape?, Graph.unevaluated, Array.getElem?_replicate] at found
  split at found
  · next beyond =>
      cases found
      exact .inr (.intro rfl fun _ => rfl)
  · next inner =>
      split at inner
      · cases inner
        cases found
      · cases inner

/-- An honest graph has shapes, or there is a message. -/
theorem told_of_shapes (honest : graph.Honest) (root : Nat) {failure : Failure}
    (fails : graph.shapes .strict root = .error failure) : failure.Told := by
  have small := graph.size_lt_bound
  have evaluates (index : Nat) :
      graph.Runs [] (Evaluate.evaluate .strict graph.bound graph.bound index) fun _ state =>
        Evaluate.HasShape index state :=
    Evaluate.runs_evaluate honest (Nat.zero_lt_of_lt small) (room_nil small) index
  have completes := Evaluate.runs_completeAll evaluates graph.bound (graph.nodes.size + 1)
  have work : graph.Runs [] (do
      Evaluate.evaluate .strict graph.bound graph.bound root
      Evaluate.completeAll graph.bound (Evaluate.evaluate .strict graph.bound graph.bound)
        (graph.nodes.size + 1)) fun _ _ => True := by
    mvcgen [evaluates, completes]
    grind
  have ends := triple_iff.mp work graph.unevaluated usual_unevaluated
  rw [Graph.shapes] at fails
  rcases Outcome.bind_eq_error_iff.mp fails with stopped | ⟨result, _, finished⟩
  · rw [stopped] at ends
    exact ends
  · cases finished

end Graph

/-! ## Checking a graph -/

namespace Graph

variable (graph : Graph)

/-- A check of one node that an honest graph passes at all nodes, unless it lends a text or holds
one without a value that has a text. -/
def isHonestAt (index : Nat) : Bool :=
  let node := graph.node index
  (graph.entries index).all (fun entry => !collectionTags.contains (graph.node entry.1).tag) &&
    (match node.content with
      | .mapping _ => true
      | .scalar text => (node.tag ≠ Tag.core "map" || text = "") &&
          (Scalar.value (index + 1) node.tag text node.start).toOption.any Tree.isLegible
      | .sequence items => node.tag ≠ Tag.core "map" || items.isEmpty) &&
    node.tag ≠ Tag.core "value"

def isHonest : Bool := passes isHonestAt graph

variable {graph}

theorem isHonestAt_of_isHonest (honest : graph.isHonest = true) (index : Nat) :
    graph.isHonestAt index = true := by
  by_cases inTable : index < graph.nodes.size
  · exact check_of_passes honest inTable
  · rw [isHonestAt, entries, node_of_size_le (Nat.le_of_not_lt inTable)]
    rfl

theorem honest_of_isHonest (honest : graph.isHonest = true) : graph.Honest := by
  have each (index : Nat) := isHonestAt_of_isHonest honest index
  simp only [isHonestAt, Bool.and_eq_true] at each
  refine ⟨?_, ?_, ?_, ?_, ?_⟩
  · rintro key ⟨index, value, member⟩
    have isKey := List.all_eq_true.mp (each index).1.1 (key, value) member
    simpa using isKey
  · intro index text _ isScalar value isValue
    have content := (each index).1.2
    rw [isScalar] at content
    simp only [isValue, Bool.and_eq_true] at content
    exact content.2
  · intro index tag
    have content := (each index).1.2
    split at content
    · next entries isMapping => exact .inl ⟨entries, isMapping⟩
    · next text isScalar =>
        rw [tag] at content
        simp only [ne_eq, not_true_eq_false, decide_false, Bool.false_or, Bool.and_eq_true,
          decide_eq_true_eq] at content
        rw [isScalar, content.1]
        exact .inr (.inl rfl)
    · next items isSequence =>
        rw [tag] at content
        simp only [ne_eq, not_true_eq_false, decide_false, Bool.false_or,
          List.isEmpty_iff] at content
        rw [isSequence, content]
        exact .inr (.inr rfl)
  · intro index text isScalar _ failure fails
    have content := (each index).1.2
    rw [isScalar] at content
    simp only [fails, Bool.and_eq_true] at content
    cases content.2
  · intro _ _ _ other
    exact of_decide_eq_true (each other).2

end Graph

/-- A text whose escapes name characters and whose graph, if there is one, is honest. -/
structure Orderly (text : String) : Prop where
  tame : Tame text.toList
  honest : forall graph, Graph.ofText text.toList = .ok graph -> graph.Honest

end Yaml
end RouteIR
