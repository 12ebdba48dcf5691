import RouteIR.Proofs.Outcome
import RouteIR.Proofs.Yaml.Evaluation
import RouteIR.Yaml.Value

namespace RouteIR
namespace Yaml

/-!
# Two loaders

In a regular graph a strict loader and a plain one find the same shapes.  The strict one refuses
a mapping that repeats a key and a mapping that lies inside itself; it refuses nothing else that
the plain one accepts, and what it accepts is what the plain one makes of the text.
-/

open Evaluate

variable {loader : Loader} {graph : Graph} {root : Nat} {evaluate : Nat -> Evaluate Unit}
  {state : Evaluation}

/-! ## The queue -/

/-- The first node of the queue leaves it. -/
theorem Sound.dequeue {index : Nat} {rest : List Nat} (sound : Sound loader graph root [] state)
    (queue : state.pending = index :: rest) :
    Sound loader graph root [index] { state with pending := rest } := by
  have nodup := sound.nodup
  have waiting := sound.waiting
  have settled := sound.settled
  rw [List.nil_append, queue] at nodup waiting settled
  exact ⟨⟨sound.kept.size, sound.kept.tag, sound.kept.start, sound.kept.content, sound.kept.busy⟩,
    sound.size, nodup, waiting, sound.constructed, fun other shape isFound elsewhere =>
      let found := settled other shape isFound elsewhere
      ⟨found.denotes, found.distinct, found.leads⟩⟩

/-- The queue is worked off, and everything in the table is settled; or a node is at fault. -/
theorem completeAll_ends (regular : graph.Regular) {bound rounds : Nat}
    (bounds : graph.nodes.size < bound)
    (evaluates : forall index, graph.Constructs root index ->
      Evaluates loader graph root evaluate [] index)
    (sound : Sound loader graph root [] state) (idle : state.active = [])
    (enough : state.work < rounds) :
    Ends (completeAll bound evaluate rounds) state (loader.Fails graph root) fun _ after =>
      Sound loader graph root [] after ∧ after.pending = [] ∧
        forall index, (state.shape? index).isSome = true -> (after.shape? index).isSome = true := by
  induction rounds generalizing state with
  | zero => exact absurd enough (Nat.not_lt_zero _)
  | succ rounds ih =>
      rw [completeAll, ends_bind_iff, ends_get_iff]
      cases queue : state.pending with
      | nil => exact ⟨sound, queue, fun _ shaped => shaped⟩
      | cons index rest =>
          have waits := sound.waiting index (by rw [queue]; exact List.mem_cons_self)
          have constructs : graph.Constructs root index := sound.constructed index _ waits.1
          dsimp only
          rw [ends_bind_iff, ends_modify_iff]
          refine (queuedShape_ends regular (regular.within_of_lt bounds index) waits.2 constructs
            (fun inner leads => evaluates inner (constructs.step leads)) (sound.dequeue queue)
            idle).bind id ?_
          rintro shape middle ⟨soundMiddle, later, settled⟩
          rw [ends_bind_iff, ends_setShape_iff]
          have free : index ∉ [] ++ middle.pending := (List.nodup_cons.mp soundMiddle.nodup).1
          have soundThen := soundMiddle.settle (List.nil_sublist _)
            (fun other member => .inr (List.mem_singleton.mp member)) free constructs settled
          have placed := Evaluation.later_withShape middle index shape
          have fewer : (middle.withShape index shape).work < rounds := by
            have popped : { state with pending := rest }.work + 1 = state.work := by
              rw [Evaluation.work, Evaluation.work, queue, List.length_cons]
              change rest.length + state.unshaped + 1 = _
              omega
            have := placed.work
            have := later.work
            omega
          refine (ih soundThen (later.active.trans idle) fewer).imp ?_ id
          rintro _ after ⟨soundAfter, empty, shaped⟩
          exact ⟨soundAfter, empty, fun other before =>
            shaped other (placed.shaped other (later.shaped other before))⟩

/-! ## The table of shapes -/

/-- A table with the shapes of the nodes that are constructed for a root, and no others. -/
structure Tabulates (graph : Graph) (root : Nat) (shapes : Array (Option Shape)) : Prop where
  size : shapes.size = graph.nodes.size
  shaped_iff : forall index shape, shapes[index]? = some (some shape) ↔
    index < graph.nodes.size ∧ graph.Constructs root index ∧ graph.shape? index = some shape

theorem Tabulates.unique {shapes others : Array (Option Shape)}
    (tabulates : Tabulates graph root shapes) (alike : Tabulates graph root others) :
    shapes = others := by
  refine Array.ext (tabulates.size.trans alike.size.symm) fun index inFirst inSecond => ?_
  refine Option.ext fun shape => ?_
  have same := (tabulates.shaped_iff index shape).trans (alike.shaped_iff index shape).symm
  rwa [Array.getElem?_eq_getElem inFirst, Array.getElem?_eq_getElem inSecond, Option.some_inj,
    Option.some_inj] at same

theorem sound_unevaluated : Sound loader graph root [] graph.unevaluated := by
  have shapeless (index : Nat) (shape : Shape) :
      graph.unevaluated.shapes[index]? ≠ some (some shape) := by
    rw [Graph.unevaluated, Array.getElem?_replicate]
    split <;> rintro ⟨⟩
  exact ⟨⟨rfl, fun _ => rfl, fun _ => rfl, fun _ _ => .inl rfl,
      fun _ member => absurd member List.not_mem_nil⟩, Array.size_replicate, List.nodup_nil,
    fun _ member => absurd member List.not_mem_nil,
    fun index shape isFound => absurd isFound (shapeless index shape),
    fun index shape isFound => absurd isFound (shapeless index shape)⟩

theorem work_unevaluated : graph.unevaluated.work = graph.nodes.size := by
  simp [Evaluation.work, Evaluation.unshaped, Graph.unevaluated, Array.countP_replicate]

/-- Once nothing waits and the root has its shape, so has every node that is constructed. -/
theorem Sound.isSome_shape? (sound : Sound loader graph root [] state) (empty : state.pending = [])
    (shaped : (state.shape? root).isSome = true) {index : Nat}
    (constructs : graph.Constructs root index) : (state.shape? index).isSome = true := by
  induction constructs with
  | root => exact shaped
  | @step outer inner _ leads ih =>
      rcases Option.isSome_iff_exists.mp ih with ⟨shape, isFound⟩
      rw [Evaluation.shape?] at isFound
      split at isFound
      · next beyond =>
          rw [Graph.leadsTo_of_size_le (sound.size ▸ Array.getElem?_eq_none_iff.mp beyond)] at leads
          exact absurd leads List.not_mem_nil
      · next found inTable =>
          rw [isFound] at inTable
          exact (sound.settled outer shape inTable (by simp [empty])).leads inner leads

theorem Sound.tabulates (sound : Sound loader graph root [] state) (empty : state.pending = [])
    (shaped : (state.shape? root).isSome = true) : Tabulates graph root state.shapes where
  size := sound.size
  shaped_iff index shape := by
    constructor
    · intro isFound
      exact ⟨sound.lt_size isFound, sound.constructed index shape isFound,
        (sound.settled index shape isFound (by simp [empty])).denotes⟩
    · rintro ⟨inTable, constructs, denotes⟩
      rcases Option.isSome_iff_exists.mp (sound.isSome_shape? empty shaped constructs) with
        ⟨found, isFound⟩
      have same := sound.denotes isFound (by simp [empty])
      rw [denotes] at same
      rw [Evaluation.shape?] at isFound
      split at isFound
      · next beyond =>
          have := sound.size ▸ Array.getElem?_eq_none_iff.mp beyond
          omega
      · next held isHeld => rw [isHeld, isFound, same]

/-- All nodes that are constructed for a root have shapes, and a loader accepts their keys. -/
def Loader.Accepts (loader : Loader) (graph : Graph) (root : Nat) : Prop :=
  forall index, graph.Constructs root index ->
    graph.shape? index ≠ none ∧ (loader = .strict -> graph.DistinctKeys index)

theorem shapes_ends (regular : graph.Regular) (loader : Loader) (root : Nat) :
    match graph.shapes loader root with
    | .ok shapes => Tabulates graph root shapes ∧ loader.Accepts graph root
    | .error _ => loader.Fails graph root := by
  have small := graph.size_lt_bound
  have evaluates (index : Nat) (constructs : graph.Constructs root index) :
      Evaluates loader graph root (Evaluate.evaluate loader graph.bound graph.bound) [] index :=
    evaluates_evaluate regular small constructs (Graph.room_nil small) nofun
  let action : Evaluate Unit := do
    Evaluate.evaluate loader graph.bound graph.bound root
    completeAll graph.bound (Evaluate.evaluate loader graph.bound graph.bound)
      (graph.nodes.size + 1)
  have ends : Ends action graph.unevaluated (loader.Fails graph root) fun _ after =>
      Sound loader graph root [] after ∧ after.pending = [] ∧
        (after.shape? root).isSome = true := by
    refine (evaluates root .root [] _ sound_unevaluated rfl).bind id ?_
    rintro _ middle ⟨soundMiddle, later, shaped⟩
    have enough : middle.work < graph.nodes.size + 1 :=
      Nat.lt_succ_of_le (work_unevaluated ▸ later.work)
    refine (completeAll_ends regular small evaluates soundMiddle later.active enough).imp ?_ id
    rintro _ after ⟨soundAfter, empty, stays⟩
    exact ⟨soundAfter, empty, stays root shaped⟩
  have spelled : graph.shapes loader root =
      (action graph.unevaluated).bind fun result => .ok result.2.shapes := rfl
  rw [spelled]
  rw [Ends] at ends
  cases outcome : action graph.unevaluated with
  | error failure =>
      rw [outcome] at ends
      exact ends
  | ok result =>
      rw [outcome] at ends
      rcases ends with ⟨sound, empty, shaped⟩
      refine ⟨sound.tabulates empty shaped, fun index constructs => ?_⟩
      rcases Option.isSome_iff_exists.mp (sound.isSome_shape? empty shaped constructs) with
        ⟨shape, isFound⟩
      have denotes := sound.denotes isFound (by simp [empty])
      refine ⟨by rw [denotes]; rintro ⟨⟩, fun strict => ?_⟩
      by_cases inTable : index < graph.nodes.size
      · have isHeld := ((sound.tabulates empty shaped).shaped_iff index shape).mpr
          ⟨inTable, constructs, denotes⟩
        exact (sound.settled index shape isHeld (by simp [empty])).distinct strict
      · exact Graph.distinctKeys_of_size_le (Nat.le_of_not_lt inTable)

/-- A loader that ends has found the shapes of all nodes that are constructed. -/
theorem tabulates_of_shapes (regular : graph.Regular) {shapes : Array (Option Shape)}
    (finds : graph.shapes loader root = .ok shapes) :
    Tabulates graph root shapes ∧ loader.Accepts graph root := by
  have ends := shapes_ends regular loader root
  rwa [finds] at ends

theorem fails_of_shapes (regular : graph.Regular) {failure : Failure}
    (stops : graph.shapes loader root = .error failure) : loader.Fails graph root := by
  have ends := shapes_ends regular loader root
  rwa [stops] at ends

/-! ## The two loaders -/

/-- What a strict loader makes of a graph, a plain one makes of it, and no mapping that is
constructed repeats a key. -/
theorem shapes_plain_of_strict (regular : graph.Regular) {shapes : Array (Option Shape)}
    (isStrict : graph.shapes .strict root = .ok shapes) :
    graph.shapes .plain root = .ok shapes ∧
      forall index, graph.Constructs root index -> graph.DistinctKeys index := by
  rcases tabulates_of_shapes regular isStrict with ⟨tabulates, accepts⟩
  refine ⟨?_, fun index constructs => (accepts index constructs).2 rfl⟩
  cases isPlain : graph.shapes .plain root with
  | ok others => rw [(tabulates_of_shapes regular isPlain).1.unique tabulates]
  | error failure =>
      rcases fails_of_shapes regular isPlain with ⟨index, constructs, missing | ⟨strict, _⟩⟩
      · exact absurd missing (accepts index constructs).1
      · cases strict

/-- What a plain loader makes of a graph, a strict one makes of it where no mapping that is
constructed repeats a key or lies inside itself. -/
theorem shapes_strict_of_plain (regular : graph.Regular) {shapes : Array (Option Shape)}
    (isPlain : graph.shapes .plain root = .ok shapes)
    (distinct : forall index, graph.Constructs root index -> graph.DistinctKeys index)
    (wellFounded : forall index, graph.Constructs root index -> ¬ graph.NestsItself index) :
    graph.shapes .strict root = .ok shapes := by
  rcases tabulates_of_shapes regular isPlain with ⟨tabulates, accepts⟩
  cases isStrict : graph.shapes .strict root with
  | ok others => rw [(tabulates_of_shapes regular isStrict).1.unique tabulates]
  | error failure =>
      rcases fails_of_shapes regular isStrict with ⟨index, constructs, missing | ⟨_, repeats | nests⟩⟩
      · exact absurd missing (accepts index constructs).1
      · exact absurd (distinct index constructs) repeats
      · exact absurd nests (wellFounded index constructs)

/-! ## Texts -/

/-- A text whose graph, if there is one, is regular. -/
def RegularText (text : String) : Prop :=
  forall graph, Graph.ofText text.toList = .ok graph -> graph.Regular

/-- A node that is constructed for the document of a text. -/
def Holds (text : String) (graph : Graph) (index : Nat) : Prop :=
  Graph.ofText text.toList = .ok graph ∧ Exists fun root =>
    graph.root = some root ∧ graph.Constructs root index

/-- No mapping of a text repeats a key, once its merge keys are expanded. -/
def DistinctKeys (text : String) : Prop :=
  forall graph index, Holds text graph index -> graph.DistinctKeys index

/-- Some mapping of a text lies inside itself, with mappings alone in between. -/
def NestsItself (text : String) : Prop :=
  Exists fun graph => Exists fun index => Holds text graph index ∧ graph.NestsItself index

theorem evaluate_eq_ok_iff {root : Nat} {tree : Tree} (isRoot : graph.root = some root) :
    graph.evaluate loader = .ok tree ↔ Exists fun shapes =>
      graph.shapes loader root = .ok shapes ∧ tree = (allTrees shapes).tree root := by
  rw [Graph.evaluate, isRoot]
  refine Outcome.bind_eq_ok_iff.trans (exists_congr fun shapes => and_congr_right fun _ => ?_)
  exact ⟨fun finished => (Except.ok.inj finished).symm, fun same => congrArg Except.ok same.symm⟩

theorem read_eq_ok_iff {text : String} {tree : Tree} :
    read loader text = .ok tree ↔ Exists fun graph =>
      Graph.ofText text.toList = .ok graph ∧ graph.evaluate loader = .ok tree :=
  Outcome.bind_eq_ok_iff

/-- What a strict loader reads from a regular text, a plain one reads from it, and no mapping
repeats a key. -/
theorem read_plain_of_strict {text : String} (regular : RegularText text) {tree : Tree}
    (reads : read .strict text = .ok tree) :
    read .plain text = .ok tree ∧ DistinctKeys text := by
  rcases read_eq_ok_iff.mp reads with ⟨graph, isGraph, evaluates⟩
  cases isRoot : graph.root with
  | none =>
      refine ⟨read_eq_ok_iff.mpr ⟨graph, isGraph, ?_⟩, ?_⟩
      · rw [Graph.evaluate, isRoot] at evaluates ⊢
        exact evaluates
      · rintro other index ⟨same, root, hasRoot, _⟩
        cases isGraph.symm.trans same
        cases isRoot.symm.trans hasRoot
  | some root =>
      rcases (evaluate_eq_ok_iff isRoot).mp evaluates with ⟨shapes, finds, rfl⟩
      rcases shapes_plain_of_strict (regular graph isGraph) finds with ⟨plainly, distinct⟩
      refine ⟨read_eq_ok_iff.mpr
        ⟨graph, isGraph, (evaluate_eq_ok_iff isRoot).mpr ⟨shapes, plainly, rfl⟩⟩, ?_⟩
      rintro other index ⟨same, otherRoot, hasRoot, constructs⟩
      cases isGraph.symm.trans same
      cases isRoot.symm.trans hasRoot
      exact distinct index constructs

/-- What a plain loader reads from a regular text, a strict one reads from it unless a mapping
repeats a key or lies inside itself. -/
theorem read_strict_of_plain {text : String} (regular : RegularText text) {tree : Tree}
    (reads : read .plain text = .ok tree) (distinct : DistinctKeys text)
    (wellFounded : ¬ NestsItself text) : read .strict text = .ok tree := by
  rcases read_eq_ok_iff.mp reads with ⟨graph, isGraph, evaluates⟩
  refine read_eq_ok_iff.mpr ⟨graph, isGraph, ?_⟩
  cases isRoot : graph.root with
  | none =>
      rw [Graph.evaluate, isRoot] at evaluates ⊢
      exact evaluates
  | some root =>
      rcases (evaluate_eq_ok_iff isRoot).mp evaluates with ⟨shapes, finds, rfl⟩
      refine (evaluate_eq_ok_iff isRoot).mpr ⟨shapes, ?_, rfl⟩
      exact shapes_strict_of_plain (regular graph isGraph) finds
        (fun index constructs => distinct graph index ⟨isGraph, root, isRoot, constructs⟩)
        (fun index constructs nests =>
          wellFounded ⟨graph, index, ⟨isGraph, root, isRoot, constructs⟩, nests⟩)

/-! ## Checking a graph -/

namespace Graph

/-- A check of one node that a regular graph passes at all nodes, when its mappings merge only
what is written before them. -/
def isRegularAt (graph : Graph) (index : Nat) : Bool :=
  (graph.entries index).all (fun entry => (graph.node entry.1).tag ≠ Tag.core "value") &&
    (graph.merges index).all (fun inner => decide (inner < index)) &&
    ((graph.node index).tag ≠ Tag.core "omap" && (graph.node index).tag ≠ Tag.core "pairs")

/-- A check of one node: no two of its keys have one value. -/
def hasDistinctKeysAt (graph : Graph) (index : Nat) : Bool :=
  (graph.keyedEntries? index).all fun keyed => decide (keyed.map (·.identity)).Nodup

/-- A check of one node: the mappings directly inside it are written after it. -/
def nestsDownAt (graph : Graph) (index : Nat) : Bool :=
  (graph.leadsTo index).all fun inner =>
    (graph.node inner).tag ≠ Tag.core "map" || decide (index < inner)

theorem regular_of_passes (all : passes isRegularAt graph = true) : graph.Regular := by
  have each (index : Nat) : graph.isRegularAt index = true := by
    by_cases inTable : index < graph.nodes.size
    · exact check_of_passes all inTable
    · rw [isRegularAt, merges, entries, node_of_size_le (Nat.le_of_not_lt inTable)]
      rfl
  simp only [isRegularAt, Bool.and_eq_true, List.all_eq_true, decide_eq_true_eq] at each
  refine ⟨fun index entry member => (each index).1.1 entry member, fun index cycle => ?_, ?_⟩
  · have descends {outer inner : Nat} (reaches : Relation.TransGen graph.Merges outer inner) :
        inner < outer := by
      induction reaches with
      | single merges => exact (each outer).1.2 _ merges
      | tail _ merges ih => exact Nat.lt_trans ((each _).1.2 _ merges) ih
    exact Nat.lt_irrefl _ (descends cycle)
  · rintro index _ _ (tag | tag) _ _ _ _
    · exact absurd tag (each index).2.1
    · exact absurd tag (each index).2.2

theorem distinctKeys_of_passes (all : passes hasDistinctKeysAt graph = true) (index : Nat) :
    graph.DistinctKeys index := by
  by_cases inTable : index < graph.nodes.size
  · intro _ keyed found
    have distinct := check_of_passes all inTable
    rw [hasDistinctKeysAt, found] at distinct
    exact of_decide_eq_true distinct
  · exact distinctKeys_of_size_le (Nat.le_of_not_lt inTable)

theorem not_nestsItself_of_passes (all : passes nestsDownAt graph = true) (index : Nat) :
    ¬ graph.NestsItself index := by
  have isBelow {outer inner : Nat} (nests : graph.Nests outer inner)
      (isMap : (graph.node inner).tag = Tag.core "map") : outer < inner := by
    have inTable : outer < graph.nodes.size := by
      by_contra beyond
      have leads := nests.2
      rw [leadsTo_of_size_le (Nat.le_of_not_lt beyond)] at leads
      exact List.not_mem_nil leads
    have below := List.all_eq_true.mp (check_of_passes all inTable) inner nests.2
    simpa [isMap] using below
  have descends {outer inner : Nat} (reaches : Relation.TransGen graph.Nests outer inner)
      (isMap : (graph.node inner).tag = Tag.core "map") : outer < inner := by
    induction reaches with
    | single nests => exact isBelow nests isMap
    | tail _ nests ih => exact Nat.lt_trans (ih nests.1) (isBelow nests isMap)
  intro cycle
  have isMap : (graph.node index).tag = Tag.core "map" := by
    rcases Relation.TransGen.head'_iff.mp cycle with ⟨_, nests, _⟩
    exact nests.1
  exact Nat.lt_irrefl _ (descends cycle isMap)

end Graph

end Yaml
end RouteIR
