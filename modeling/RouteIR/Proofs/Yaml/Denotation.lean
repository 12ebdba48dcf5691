import Mathlib.Data.List.Chain
import Mathlib.Data.List.Perm.Subperm
import Mathlib.Logic.Relation
import RouteIR.Yaml.Shape

namespace RouteIR
namespace Yaml

/-!
# What the nodes of a graph denote

The shape of a node is determined by the graph alone, whatever the order in which nodes are
evaluated: a mapping has the entries that its merge keys bring and its own, a key has the value
of its scalar, and everything else stands in the node.  The definitions here give that shape
without a state, where there is one.
-/

namespace Graph

variable (graph : Graph)

def node (index : Nat) : Node := graph.nodes[index]?.getD .absent

/-- The entries of a mapping as written; other nodes have none. -/
def entries (index : Nat) : List (Nat × Nat) :=
  match (graph.node index).content with
  | .mapping entries => entries
  | _ => []

def isMergeKey (key : Nat) : Bool := (graph.node key).tag = Tag.core "merge"

/-! ## Merging -/

/-- The entries that are merge keys. -/
def merging (entries : List (Nat × Nat)) : List (Nat × Nat) :=
  entries.filter fun entry => graph.isMergeKey entry.1

/-- The nodes that the value of a merge key names. -/
def named (value : Nat) : List Nat :=
  match (graph.node value).content with
  | .mapping _ => [value]
  | .sequence items => items
  | .scalar _ => []

/-- The nodes that a mapping merges into itself. -/
def merges (index : Nat) : List Nat :=
  (graph.merging (graph.entries index)).flatMap fun entry => graph.named entry.2

/-- A mapping that is merged into another one. -/
def Merges (outer inner : Nat) : Prop := inner ∈ graph.merges outer

/-- What the value of a merge key brings, given what mappings hold. -/
def broughtBy (held : Nat -> Option (List (Nat × Nat))) (value : Nat) :
    Option (List (Nat × Nat)) :=
  match (graph.node value).content with
  | .mapping _ => held value
  | .sequence items => (items.mapM held).map fun lists => lists.reverse.flatten
  | .scalar _ => none

/-- What entries bring through their merge keys. -/
def brought (held : Nat -> Option (List (Nat × Nat))) (entries : List (Nat × Nat)) :
    Option (List (Nat × Nat)) :=
  ((graph.merging entries).mapM fun entry => graph.broughtBy held entry.2).map List.flatten

/-- The entries that remain when merge keys are expanded. -/
def own (entries : List (Nat × Nat)) : List (Nat × Nat) :=
  entries.filter fun entry => !graph.isMergeKey entry.1

def heldWith (held : Nat -> Option (List (Nat × Nat))) (index : Nat) :
    Option (List (Nat × Nat)) :=
  match (graph.node index).content with
  | .mapping entries => (graph.brought held entries).map (· ++ graph.own entries)
  | _ => none

/-- What a mapping holds when merge keys are expanded to a depth. -/
def heldWithin : Nat -> Nat -> Option (List (Nat × Nat))
  | 0, _ => none
  | depth + 1, index => graph.heldWith (heldWithin depth) index

/-- The entries of a mapping with its merge keys expanded. -/
def held (index : Nat) : Option (List (Nat × Nat)) :=
  graph.heldWithin (graph.nodes.size + 1) index

/-! ## Shapes -/

/-- The value of a scalar. -/
def value? (index : Nat) : Option Tree :=
  let here := graph.node index
  if Evaluate.scalarTags.contains here.tag then
    match here.content with
    | .scalar text => (Scalar.value (index + 1) here.tag text here.start).toOption
    | _ => none
  else none

/-- The value of a key, with what it has in common with equal keys. -/
def key? (index : Nat) : Option (Identity × Tree) :=
  (graph.value? index).bind fun value => value.identity.toOption.map fun identity =>
    (identity, value)

def keyed? (entry : Nat × Nat) : Option KeyedEntry :=
  (graph.key? entry.1).map fun key => ⟨key.1, key.2, entry.2⟩

/-- The entries of a mapping with the values of their keys. -/
def keyedEntries? (index : Nat) : Option (List KeyedEntry) :=
  (graph.held index).bind fun entries => entries.mapM graph.keyed?

/-- The only entry of a mapping. -/
def pair? (index : Nat) : Option (Nat × Nat) :=
  match (graph.node index).content with
  | .mapping [entry] => some entry
  | _ => none

/-- The shape of a node, if it has one. -/
def shape? (index : Nat) : Option Shape :=
  let here := graph.node index
  if here.tag = Tag.core "seq" then
    match here.content with
    | .sequence items => some (.list items)
    | _ => none
  else if here.tag = Tag.core "set" then
    (graph.held index).bind fun entries =>
      (graph.keyedEntries? index).map fun _ => .set (entries.map Prod.fst)
  else if here.tag = Tag.core "map" then
    (graph.keyedEntries? index).map fun keyed => .ofEntries (lastWins keyed)
  else if here.tag = Tag.core "omap" ∨ here.tag = Tag.core "pairs" then
    match here.content with
    | .sequence items => (items.mapM graph.pair?).map .pairs
    | _ => none
  else (graph.value? index).map .scalar

/-! ## What a node leads to -/

/-- The keys and values of entries. -/
def ends (entries : List (Nat × Nat)) : List Nat := entries.flatMap fun entry => [entry.1, entry.2]

/-- The nodes that are evaluated for a node. -/
def leadsTo (index : Nat) : List Nat :=
  let here := graph.node index
  if here.tag = Tag.core "seq" then
    match here.content with
    | .sequence items => items
    | _ => []
  else if here.tag = Tag.core "set" ∨ here.tag = Tag.core "map" then
    ends ((graph.held index).getD [])
  else if here.tag = Tag.core "omap" ∨ here.tag = Tag.core "pairs" then
    match here.content with
    | .sequence items => items.flatMap fun item => ends (graph.entries item)
    | _ => []
  else []

/-- The nodes that are constructed for a root. -/
inductive Constructs (root : Nat) : Nat -> Prop
  | root : Constructs root root
  | step {index inner : Nat} (outer : Constructs root index) (leads : inner ∈ graph.leadsTo index) :
      Constructs root inner

/-- A mapping directly inside another one. -/
def Nests (outer inner : Nat) : Prop :=
  (graph.node outer).tag = Tag.core "map" ∧ inner ∈ graph.leadsTo outer

/-- A mapping that lies inside itself, with mappings alone in between. -/
def NestsItself (index : Nat) : Prop := Relation.TransGen graph.Nests index index

/-- No two keys of a mapping have one value. -/
def DistinctKeys (index : Nat) : Prop :=
  (graph.node index).tag = Tag.core "map" -> forall keyed,
    graph.keyedEntries? index = some keyed -> (keyed.map (·.identity)).Nodup

/-! ## Regular graphs -/

/-- The graphs in which the order of evaluation makes no difference: no key is a value key,
which becomes a text when a mapping around it is expanded; no mapping merges itself; and
mappings that stand for a pair, which are not expanded, have nothing to expand. -/
structure Regular : Prop where
  keys : forall index entry, entry ∈ graph.entries index ->
    (graph.node entry.1).tag ≠ Tag.core "value"
  merges : forall index, ¬ Relation.TransGen graph.Merges index index
  pairs : forall index items item,
    (graph.node index).tag = Tag.core "omap" ∨ (graph.node index).tag = Tag.core "pairs" ->
    (graph.node index).content = .sequence items -> item ∈ items ->
    forall entry, entry ∈ graph.entries item -> graph.isMergeKey entry.1 = false

/-! ## Expanding merge keys -/

variable {graph}

theorem node_of_size_le {index : Nat} (beyond : graph.nodes.size ≤ index) :
    graph.node index = .absent := by
  rw [node, Array.getElem?_eq_none beyond]
  rfl

theorem lt_size_of_entries {index : Nat} (filled : graph.entries index ≠ []) :
    index < graph.nodes.size := by
  by_contra beyond
  apply filled
  rw [entries, node_of_size_le (Nat.le_of_not_lt beyond)]
  rfl

/-- The bound of a graph is more than its nodes, each of which counts for one or more. -/
theorem size_lt_bound (graph : Graph) : graph.nodes.size < graph.bound := by
  have counts (count : Nat -> Node -> Nat) (nodes : List Node) (total : Nat)
      (grows : forall total node, total + 1 ≤ count total node) :
      total + nodes.length ≤ nodes.foldl count total := by
    induction nodes generalizing total with
    | nil => exact Nat.le_refl _
    | cons node rest ih =>
        have := grows total node
        have := ih (count total node)
        rw [List.length_cons, List.foldl_cons]
        omega
  rw [Graph.bound, ← Array.foldl_toList, ← Array.length_toList]
  refine Nat.lt_of_lt_of_le (by omega) (counts _ graph.nodes.toList 2 fun total node => ?_)
  split <;> omega

/-- A pass gives the same where every item does. -/
theorem mapM_congr {α β : Type} {run rerun : α -> Option β} {items : List α}
    (same : forall item, item ∈ items -> run item = rerun item) :
    items.mapM run = items.mapM rerun := by
  induction items with
  | nil => rfl
  | cons item rest ih =>
      rw [List.mapM_cons, List.mapM_cons, same item List.mem_cons_self,
        ih fun other member => same other (List.mem_cons_of_mem _ member)]

theorem mapM_cons_of_some {α β : Type} {run : α -> Option β} {item : α} {rest : List α} {value : β}
    {values : List β} (first : run item = some value) (others : rest.mapM run = some values) :
    (item :: rest).mapM run = some (value :: values) := by
  rw [List.mapM_cons, first, others]
  rfl

theorem mapM_cons_eq_none_iff {α β : Type} {run : α -> Option β} {item : α} {rest : List α} :
    (item :: rest).mapM run = none ↔ run item = none ∨ rest.mapM run = none := by
  rw [List.mapM_cons]
  cases run item <;> cases rest.mapM run <;> simp

theorem mem_merges {index inner : Nat} :
    inner ∈ graph.merges index ↔ Exists fun entry => entry ∈ graph.entries index ∧
      graph.isMergeKey entry.1 = true ∧ inner ∈ graph.named entry.2 := by
  simp [merges, merging, and_assoc]

theorem entries_of_content {index : Nat} {entries : List (Nat × Nat)}
    (content : (graph.node index).content = .mapping entries) : graph.entries index = entries := by
  rw [Graph.entries, content]

theorem broughtBy_congr {held other : Nat -> Option (List (Nat × Nat))} {value : Nat}
    (same : forall inner, inner ∈ graph.named value -> held inner = other inner) :
    graph.broughtBy held value = graph.broughtBy other value := by
  rw [named] at same
  rw [broughtBy, broughtBy]
  cases content : (graph.node value).content with
  | scalar _ => rfl
  | mapping _ =>
      rw [content] at same
      exact same value (List.mem_singleton_self value)
  | sequence items =>
      rw [content] at same
      exact congrArg (Option.map _) (mapM_congr same)

/-- Only a mapping holds entries. -/
theorem exists_content_of_held {index : Nat} {entries : List (Nat × Nat)}
    (holds : graph.held index = some entries) :
    Exists fun written => (graph.node index).content = .mapping written := by
  rw [held, heldWithin, heldWith] at holds
  cases content : (graph.node index).content with
  | mapping written => exact ⟨written, rfl⟩
  | scalar _ =>
      rw [content] at holds
      cases holds
  | sequence _ =>
      rw [content] at holds
      cases holds

/-- What mappings hold matters only where they are merged. -/
theorem heldWith_congr {held other : Nat -> Option (List (Nat × Nat))} {index : Nat}
    (same : forall inner, inner ∈ graph.merges index -> held inner = other inner) :
    graph.heldWith held index = graph.heldWith other index := by
  rw [heldWith, heldWith]
  cases content : (graph.node index).content with
  | scalar _ => rfl
  | sequence _ => rfl
  | mapping entries =>
      have alike : graph.brought held entries = graph.brought other entries := by
        rw [brought, brought]
        refine congrArg (Option.map List.flatten) (mapM_congr fun entry member => ?_)
        refine broughtBy_congr fun inner names => same inner (mem_merges.mpr ⟨entry, ?_⟩)
        rcases List.mem_filter.mp member with ⟨written, merging⟩
        exact ⟨(entries_of_content content).symm ▸ written, merging, names⟩
      exact congrArg (Option.map _) alike

/-- Merging ends below a node within so many steps. -/
def Within (graph : Graph) : Nat -> Nat -> Prop
  | 0, _ => False
  | depth + 1, index => forall inner, inner ∈ graph.merges index -> Within graph depth inner

theorem heldWithin_succ {depth index : Nat} (within : graph.Within depth index) :
    graph.heldWithin (depth + 1) index = graph.heldWithin depth index := by
  induction depth generalizing index with
  | zero => exact within.elim
  | succ depth ih =>
      rw [heldWithin, heldWithin]
      exact heldWith_congr fun inner merged => ih (within inner merged)

theorem exists_chain_of_not_within {depth index : Nat} (beyond : ¬ graph.Within depth index) :
    Exists fun path => path.length = depth ∧
      List.IsChain graph.Merges (index :: path) := by
  induction depth generalizing index with
  | zero => exact ⟨[], rfl, .singleton index⟩
  | succ depth ih =>
      rw [Within] at beyond
      push Not at beyond
      rcases beyond with ⟨inner, merged, deeper⟩
      rcases ih deeper with ⟨path, length, chain⟩
      exact ⟨inner :: path, by rw [List.length_cons, length], .cons_cons merged chain⟩

/-- Different indices of a table are no more than its entries. -/
theorem length_le_of_nodup {indices : List Nat} {size : Nat} (distinct : indices.Nodup)
    (bounded : forall index, index ∈ indices -> index < size) : indices.length ≤ size := by
  have inRange : indices ⊆ List.range size := fun index member =>
    List.mem_range.mpr (bounded index member)
  have fewer := (List.subperm_of_subset distinct inRange).length_le
  rwa [List.length_range] at fewer

/-- Depth to evaluate nodes one inside another: those that are active are all different, and
there is a level left for every other node of the table. -/
structure Room (graph : Graph) (active : List Nat) (depth : Nat) : Prop where
  distinct : active.Nodup
  inTable : forall index, index ∈ active -> index < graph.nodes.size
  deep : graph.nodes.size < active.length + depth

theorem room_nil {depth : Nat} (small : graph.nodes.size < depth) : graph.Room [] depth :=
  ⟨List.nodup_nil, nofun, by rwa [List.length_nil, Nat.zero_add]⟩

/-- The depth does not run out. -/
theorem not_room_zero {active : List Nat} : ¬ graph.Room active 0 := fun room =>
  Nat.not_lt_of_le (length_le_of_nodup room.distinct room.inTable) room.deep

theorem Room.enter {active : List Nat} {depth index : Nat} (room : graph.Room active (depth + 1))
    (fresh : index ∉ active) (isNode : index < graph.nodes.size) :
    graph.Room (index :: active) depth := by
  refine ⟨List.nodup_cons.mpr ⟨fresh, room.distinct⟩,
    List.forall_mem_cons.mpr ⟨isNode, room.inTable⟩, ?_⟩
  have deep := room.deep
  rw [List.length_cons]
  omega

theorem merges_eq_nil {index : Nat} (empty : graph.entries index = []) :
    graph.merges index = [] := by
  rw [merges, empty]
  rfl

/-- Of a chain of merges all nodes but the last are in the table. -/
theorem lt_size_of_chain {path : List Nat}
    (chain : List.IsChain graph.Merges path) :
    forall index, index ∈ path.dropLast -> index < graph.nodes.size := by
  induction chain with
  | nil => simp
  | singleton => simp
  | @cons_cons outer inner rest merged _ ih =>
      intro index member
      rcases List.mem_cons.mp member with rfl | member
      · refine lt_size_of_entries fun empty => ?_
        rw [Merges, merges_eq_nil empty] at merged
        exact List.not_mem_nil merged
      · exact ih index member

/-- No node occurs twice in a chain of merges. -/
theorem Regular.nodup_of_chain (regular : graph.Regular) {path : List Nat}
    (chain : List.IsChain graph.Merges path) : path.Nodup := by
  have reaching : List.IsChain (Relation.TransGen graph.Merges) path :=
    chain.imp fun _ _ => Relation.TransGen.single
  refine reaching.pairwise.imp ?_
  rintro outer _ reaches rfl
  exact regular.merges outer reaches

/-- Merging ends before it has gone through all nodes. -/
theorem Regular.within (regular : graph.Regular) (index : Nat) :
    graph.Within (graph.nodes.size + 1) index := by
  by_contra beyond
  rcases exists_chain_of_not_within beyond with ⟨path, length, chain⟩
  have distinct := (List.dropLast_sublist _).nodup (regular.nodup_of_chain chain)
  have few := length_le_of_nodup distinct (lt_size_of_chain chain)
  rw [List.length_dropLast, List.length_cons, length] at few
  omega

theorem Within.mono {depth bound index : Nat} (within : graph.Within depth index)
    (deeper : depth ≤ bound) : graph.Within bound index := by
  induction bound generalizing depth index with
  | zero => exact Nat.le_zero.mp deeper ▸ within
  | succ bound ih =>
      cases depth with
      | zero => exact within.elim
      | succ depth =>
          exact fun inner merged => ih (within inner merged) (Nat.le_of_succ_le_succ deeper)

theorem Regular.within_of_lt (regular : graph.Regular) {bound : Nat}
    (bounds : graph.nodes.size < bound) (index : Nat) : graph.Within bound index :=
  (regular.within index).mono bounds

/-- What a mapping holds is what the mappings hold that it merges, and its own entries. -/
theorem Regular.held_eq (regular : graph.Regular) (index : Nat) :
    graph.held index = graph.heldWith graph.held index := by
  rw [held, heldWithin]
  exact heldWith_congr fun inner merged => (heldWithin_succ (regular.within index inner merged)).symm

/-! ## Entries one by one -/

theorem merging_cons_merge {entry : Nat × Nat} {rest : List (Nat × Nat)}
    (isMerge : graph.isMergeKey entry.1 = true) :
    graph.merging (entry :: rest) = entry :: graph.merging rest := by
  rw [merging, List.filter_cons, if_pos isMerge, merging]

theorem merging_cons_own {entry : Nat × Nat} {rest : List (Nat × Nat)}
    (plain : graph.isMergeKey entry.1 = false) :
    graph.merging (entry :: rest) = graph.merging rest := by
  rw [merging, List.filter_cons, if_neg (by rw [plain]; decide), merging]

theorem own_cons_merge {entry : Nat × Nat} {rest : List (Nat × Nat)}
    (isMerge : graph.isMergeKey entry.1 = true) :
    graph.own (entry :: rest) = graph.own rest := by
  rw [own, List.filter_cons, if_neg (by rw [isMerge]; decide), own]

theorem own_cons_own {entry : Nat × Nat} {rest : List (Nat × Nat)}
    (plain : graph.isMergeKey entry.1 = false) :
    graph.own (entry :: rest) = entry :: graph.own rest := by
  rw [own, List.filter_cons, if_pos (by rw [plain]; rfl), own]

variable {held : Nat -> Option (List (Nat × Nat))}

theorem brought_cons_merge {entry : Nat × Nat} {rest : List (Nat × Nat)}
    (isMerge : graph.isMergeKey entry.1 = true) :
    graph.brought held (entry :: rest) = (graph.broughtBy held entry.2).bind fun first =>
      (graph.brought held rest).map (first ++ ·) := by
  rw [brought, brought, merging_cons_merge isMerge, List.mapM_cons]
  cases graph.broughtBy held entry.2 with
  | none => rfl
  | some first => cases (graph.merging rest).mapM fun entry => graph.broughtBy held entry.2 <;> rfl

theorem brought_cons_own {entry : Nat × Nat} {rest : List (Nat × Nat)}
    (plain : graph.isMergeKey entry.1 = false) :
    graph.brought held (entry :: rest) = graph.brought held rest := by
  rw [brought, brought, merging_cons_own plain]

/-- Entries without merge keys stay as they are. -/
theorem expand_plain {entries : List (Nat × Nat)}
    (plain : forall entry, entry ∈ entries -> graph.isMergeKey entry.1 = false) :
    graph.brought held entries = some [] ∧ graph.own entries = entries := by
  induction entries with
  | nil => exact ⟨rfl, rfl⟩
  | cons entry rest ih =>
      rcases ih fun other member => plain other (List.mem_cons_of_mem _ member) with ⟨none, same⟩
      have first := plain entry List.mem_cons_self
      exact ⟨(brought_cons_own first).trans none, by rw [own_cons_own first, same]⟩

theorem exists_of_mem_mapM {α β : Type} {run : α -> Option β} {items : List α} {values : List β}
    (passes : items.mapM run = some values) {value : β} (member : value ∈ values) :
    Exists fun item => item ∈ items ∧ run item = some value := by
  induction items generalizing values with
  | nil =>
      cases passes
      cases member
  | cons item rest ih =>
      rw [List.mapM_cons] at passes
      rcases Option.bind_eq_some_iff.mp passes with ⟨first, atFirst, passes⟩
      rcases Option.bind_eq_some_iff.mp passes with ⟨others, atOthers, same⟩
      cases same
      rcases List.mem_cons.mp member with rfl | member
      · exact ⟨item, List.mem_cons_self, atFirst⟩
      · rcases ih atOthers member with ⟨other, among, gives⟩
        exact ⟨other, List.mem_cons_of_mem _ among, gives⟩

/-- What is brought is held by some mapping. -/
theorem exists_held_of_mem_broughtBy {value : Nat} {entries : List (Nat × Nat)}
    (brings : graph.broughtBy held value = some entries) {entry : Nat × Nat}
    (member : entry ∈ entries) :
    Exists fun inner => Exists fun found => held inner = some found ∧ entry ∈ found := by
  rw [broughtBy] at brings
  cases content : (graph.node value).content with
  | scalar _ =>
      rw [content] at brings
      cases brings
  | mapping _ =>
      rw [content] at brings
      exact ⟨value, entries, brings, member⟩
  | sequence items =>
      rw [content] at brings
      rcases Option.map_eq_some_iff.mp brings with ⟨lists, passes, rfl⟩
      rcases List.mem_flatten.mp member with ⟨found, among, within⟩
      rcases exists_of_mem_mapM passes (List.mem_reverse.mp among) with ⟨inner, _, holds⟩
      exact ⟨inner, found, holds, within⟩

/-- Every entry that a mapping holds is written in some mapping, and no merge key. -/
theorem exists_writer_of_mem_heldWithin {depth index : Nat} {entries : List (Nat × Nat)}
    (holds : graph.heldWithin depth index = some entries) {entry : Nat × Nat}
    (member : entry ∈ entries) :
    graph.isMergeKey entry.1 = false ∧ Exists fun writer => entry ∈ graph.entries writer := by
  induction depth generalizing index entries with
  | zero => cases holds
  | succ depth ih =>
      rw [heldWithin, heldWith] at holds
      cases content : (graph.node index).content with
      | scalar _ =>
          rw [content] at holds
          cases holds
      | sequence _ =>
          rw [content] at holds
          cases holds
      | mapping written =>
          rw [content] at holds
          rcases Option.map_eq_some_iff.mp holds with ⟨merged, brings, rfl⟩
          rcases List.mem_append.mp member with member | member
          · rcases Option.map_eq_some_iff.mp brings with ⟨lists, passes, rfl⟩
            rcases List.mem_flatten.mp member with ⟨first, among, within⟩
            rcases exists_of_mem_mapM passes among with ⟨source, _, bringing⟩
            rcases exists_held_of_mem_broughtBy bringing within with ⟨inner, found, below, stands⟩
            exact ih below stands
          · rcases List.mem_filter.mp member with ⟨stands, plain⟩
            refine ⟨by simpa using plain, index, ?_⟩
            rwa [entries_of_content content]

/-- What a mapping holds is expanded: nothing in it is a merge key. -/
theorem plain_of_held {index : Nat} {entries : List (Nat × Nat)}
    (holds : graph.held index = some entries) :
    forall entry, entry ∈ entries -> graph.isMergeKey entry.1 = false :=
  fun _ member => (exists_writer_of_mem_heldWithin holds member).1

theorem Regular.key_of_held (regular : graph.Regular) {index : Nat} {entries : List (Nat × Nat)}
    (holds : graph.held index = some entries) :
    forall entry, entry ∈ entries -> (graph.node entry.1).tag ≠ Tag.core "value" := by
  intro entry member
  rcases (exists_writer_of_mem_heldWithin holds member).2 with ⟨writer, written⟩
  exact regular.keys writer entry written

/-- A mapping without merge keys holds the entries that are written in it. -/
theorem Regular.held_of_plain (regular : graph.Regular) {index : Nat}
    {written : List (Nat × Nat)} (content : (graph.node index).content = .mapping written)
    (plain : forall entry, entry ∈ graph.entries index -> graph.isMergeKey entry.1 = false) :
    graph.held index = some written := by
  rw [entries_of_content content] at plain
  have expansion : graph.brought graph.held written = some [] ∧ graph.own written = written :=
    expand_plain plain
  rw [regular.held_eq, heldWith, content]
  dsimp only
  rw [expansion.1, expansion.2]
  rfl

theorem mem_ends_cons_iff {entry : Nat × Nat} {rest : List (Nat × Nat)} {inner : Nat} :
    inner ∈ ends (entry :: rest) ↔ inner = entry.1 ∨ inner = entry.2 ∨ inner ∈ ends rest := by
  simp [ends]

theorem mem_ends_iff {entries : List (Nat × Nat)} {inner : Nat} :
    inner ∈ ends entries ↔
      Exists fun entry => entry ∈ entries ∧ (inner = entry.1 ∨ inner = entry.2) := by
  simp [ends]

/-! ## Shapes by tag -/

theorem shape?_of_seq {index : Nat} (tag : (graph.node index).tag = Tag.core "seq") :
    graph.shape? index = match (graph.node index).content with
      | .sequence items => some (.list items)
      | _ => none :=
  if_pos tag

theorem shape?_of_set {index : Nat} (tag : (graph.node index).tag = Tag.core "set") :
    graph.shape? index = (graph.held index).bind fun entries =>
      (graph.keyedEntries? index).map fun _ => .set (entries.map Prod.fst) := by
  refine (if_neg ?_).trans (if_pos tag)
  rw [tag]
  decide

theorem shape?_of_map {index : Nat} (tag : (graph.node index).tag = Tag.core "map") :
    graph.shape? index =
      (graph.keyedEntries? index).map fun keyed => .ofEntries (lastWins keyed) := by
  refine (if_neg ?_).trans ((if_neg ?_).trans (if_pos tag)) <;>
  · rw [tag]
    decide

theorem shape?_of_pairs {index : Nat}
    (tag : (graph.node index).tag = Tag.core "omap" ∨ (graph.node index).tag = Tag.core "pairs") :
    graph.shape? index = match (graph.node index).content with
      | .sequence items => (items.mapM graph.pair?).map .pairs
      | _ => none := by
  refine (if_neg ?_).trans ((if_neg ?_).trans ((if_neg ?_).trans (if_pos tag))) <;>
  · rcases tag with tag | tag <;>
    · rw [tag]
      decide

/-- A node of another tag has the shape of a scalar, if it has one. -/
theorem shape?_of_other {index : Nat}
    (other : forall name, name ∈ ["seq", "set", "map", "omap", "pairs"] ->
      (graph.node index).tag ≠ Tag.core name) :
    graph.shape? index = (graph.value? index).map .scalar := by
  have sequential : ¬ ((graph.node index).tag = Tag.core "omap" ∨
      (graph.node index).tag = Tag.core "pairs") := by
    rintro (tag | tag)
    · exact other "omap" (by simp) tag
    · exact other "pairs" (by simp) tag
  exact (if_neg (other "seq" (by simp))).trans ((if_neg (other "set" (by simp))).trans
    ((if_neg (other "map" (by simp))).trans (if_neg sequential)))

/-- The tags of nodes with members have no scalars. -/
theorem value?_of_tag {index : Nat} {name : String}
    (compound : name ∈ ["seq", "set", "map", "omap", "pairs"])
    (tag : (graph.node index).tag = Tag.core name) : graph.value? index = none := by
  have unlisted : forall name, name ∈ ["seq", "set", "map", "omap", "pairs"] ->
      Evaluate.scalarTags.contains (Tag.core name) = false := by decide
  rw [value?, tag, unlisted name compound]
  rfl

theorem shape?_eq_scalar_iff {index : Nat} {value : Tree} :
    graph.shape? index = some (.scalar value) ↔ graph.value? index = some value := by
  by_cases other : forall name, name ∈ ["seq", "set", "map", "omap", "pairs"] ->
      (graph.node index).tag ≠ Tag.core name
  · rw [shape?_of_other other]
    simp
  · push Not at other
    rcases other with ⟨name, compound, tag⟩
    rw [value?_of_tag compound tag]
    refine ⟨fun denotes => ?_, nofun⟩
    simp only [List.mem_cons, List.not_mem_nil, or_false] at compound
    rcases compound with rfl | rfl | rfl | rfl | rfl
    · rw [shape?_of_seq tag] at denotes
      split at denotes <;> cases denotes
    · rw [shape?_of_set tag] at denotes
      simp [Option.bind_eq_some_iff] at denotes
    · rw [shape?_of_map tag] at denotes
      simp [Shape.ofEntries] at denotes
    · rw [shape?_of_pairs (.inl tag)] at denotes
      split at denotes <;> simp at denotes
    · rw [shape?_of_pairs (.inr tag)] at denotes
      split at denotes <;> simp at denotes

theorem leadsTo_of_seq {index : Nat} {items : List Nat}
    (tag : (graph.node index).tag = Tag.core "seq")
    (content : (graph.node index).content = .sequence items) : graph.leadsTo index = items := by
  rw [leadsTo]
  simp only [tag, content, if_true]

theorem leadsTo_of_held {index : Nat} {entries : List (Nat × Nat)}
    (tag : (graph.node index).tag = Tag.core "set" ∨ (graph.node index).tag = Tag.core "map")
    (holds : graph.held index = some entries) : graph.leadsTo index = ends entries := by
  refine (if_neg ?_).trans ((if_pos tag).trans (by rw [holds]; rfl))
  rcases tag with tag | tag <;>
  · rw [tag]
    decide

theorem leadsTo_of_pairs {index : Nat} {items : List Nat}
    (tag : (graph.node index).tag = Tag.core "omap" ∨ (graph.node index).tag = Tag.core "pairs")
    (content : (graph.node index).content = .sequence items) :
    graph.leadsTo index = items.flatMap fun item => ends (graph.entries item) := by
  refine (if_neg ?_).trans ((if_neg ?_).trans ((if_pos tag).trans (by rw [content]))) <;>
  · rcases tag with tag | tag <;>
    · rw [tag]
      decide

/-- A scalar leads to no other node. -/
theorem leadsTo_of_other {index : Nat}
    (other : forall name, name ∈ ["seq", "set", "map", "omap", "pairs"] ->
      (graph.node index).tag ≠ Tag.core name) : graph.leadsTo index = [] := by
  refine (if_neg (other "seq" (by simp))).trans ((if_neg ?_).trans (if_neg ?_))
  · rintro (tag | tag)
    · exact other "set" (by simp) tag
    · exact other "map" (by simp) tag
  · rintro (tag | tag)
    · exact other "omap" (by simp) tag
    · exact other "pairs" (by simp) tag

/-- An index outside of the table denotes null. -/
theorem shape?_of_size_le {index : Nat} (beyond : graph.nodes.size ≤ index) :
    graph.shape? index = some (.scalar .null) := by
  have absent : graph.node index = .absent := node_of_size_le beyond
  have value : graph.value? index = some .null := by
    rw [value?, absent]
    rfl
  rw [shape?_of_other, value]
  · rfl
  · rw [absent]
    decide

theorem leadsTo_of_size_le {index : Nat} (beyond : graph.nodes.size ≤ index) :
    graph.leadsTo index = [] := by
  refine leadsTo_of_other ?_
  rw [node_of_size_le beyond]
  decide

theorem distinctKeys_of_size_le {index : Nat} (beyond : graph.nodes.size ≤ index) :
    graph.DistinctKeys index := by
  rw [DistinctKeys, node_of_size_le beyond]
  intro tag
  exact absurd tag (by decide)

/-! ## Checking nodes one by one -/

/-- Whether all nodes of a graph pass a check. -/
def passes (check : Graph -> Nat -> Bool) (graph : Graph) : Bool :=
  (List.range graph.nodes.size).all (check graph)

theorem check_of_passes {check : Graph -> Nat -> Bool} (all : passes check graph = true)
    {index : Nat} (inTable : index < graph.nodes.size) : check graph index = true :=
  List.all_eq_true.mp all index (List.mem_range.mpr inTable)

end Graph
end Yaml
end RouteIR
