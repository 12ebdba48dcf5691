import RouteIR.Proofs.Yaml.Denotation
import RouteIR.Proofs.Yaml.Run

namespace RouteIR
namespace Yaml

/-!
# Merge keys are expanded in place

Expanding a mapping changes the table of nodes: the mapping and those that it merges come to
stand there with what they hold.  Where no mapping merges itself, that is all that changes.  A
mapping that is being expanded is met again by no expansion inside it, so its merge keys are
worked off one by one, while everything else stands as it is written or as it is expanded.
-/

open Evaluate

namespace Graph

variable (graph : Graph)

/-- The content of a node, as written or expanded. -/
def Stands (index : Nat) (content : Content) : Prop :=
  content = (graph.node index).content ∨
    Exists fun entries => graph.held index = some entries ∧ content = .mapping entries

/-- A table in which every node stands, apart from the mappings that are being expanded. -/
structure Kept (busy : List Nat) (state : Evaluation) : Prop where
  size : state.nodes.size = graph.nodes.size
  tag : forall index, (state.node index).tag = (graph.node index).tag
  start : forall index, (state.node index).start = (graph.node index).start
  content : forall index, index ∉ busy -> graph.Stands index (state.node index).content
  busy : forall index, index ∈ busy ->
    Exists fun written => (graph.node index).content = .mapping written

/-- A mapping in whose place its expansion stands. -/
def Expanded (index : Nat) (state : Evaluation) : Prop :=
  Exists fun entries => graph.held index = some entries ∧
    (state.node index).content = .mapping entries

end Graph

/-- What an expansion leaves alone. -/
structure Frame (busy : List Nat) (state after : Evaluation) : Prop where
  nodes : forall index, index ∈ busy -> after.node index = state.node index
  shapes : after.shapes = state.shapes
  active : after.active = state.active
  pending : after.pending = state.pending

theorem Frame.refl (busy : List Nat) (state : Evaluation) : Frame busy state state :=
  ⟨fun _ _ => rfl, rfl, rfl, rfl⟩

theorem Frame.trans {busy : List Nat} {first second third : Evaluation}
    (before : Frame busy first second) (after : Frame busy second third) :
    Frame busy first third where
  nodes index member := (after.nodes index member).trans (before.nodes index member)
  shapes := after.shapes.trans before.shapes
  active := after.active.trans before.active
  pending := after.pending.trans before.pending

theorem Frame.weaken {busy : List Nat} {index : Nat} {state after : Evaluation}
    (frame : Frame (index :: busy) state after) : Frame busy state after :=
  { frame with nodes := fun other member => frame.nodes other (List.mem_cons_of_mem _ member) }

theorem Frame.withNode {busy : List Nat} {index : Nat} (free : index ∉ busy) (state : Evaluation)
    (node : Node) : Frame busy state (state.withNode index node) :=
  ⟨fun _ member => Evaluation.node_withNode_of_ne node fun same => free (same ▸ member),
    rfl, rfl, rfl⟩

namespace Graph

variable {graph : Graph}

theorem Stands.eq_content {index : Nat} {content : Content} (stands : graph.Stands index content)
    (plain : forall written, (graph.node index).content ≠ .mapping written) :
    content = (graph.node index).content := by
  rcases stands with same | ⟨entries, holds, _⟩
  · exact same
  · rcases exists_content_of_held holds with ⟨written, isMapping⟩
    exact absurd isMapping (plain written)

theorem Kept.content_of_plain {busy : List Nat} {state : Evaluation} (kept : graph.Kept busy state)
    {index : Nat} (plain : forall written, (graph.node index).content ≠ .mapping written) :
    (state.node index).content = (graph.node index).content := by
  refine (kept.content index fun isBusy => ?_).eq_content plain
  rcases kept.busy index isBusy with ⟨written, content⟩
  exact plain written content

/-- A mapping without merge keys stands as it is written. -/
theorem Regular.content_of_plain (regular : graph.Regular) {state : Evaluation}
    (kept : graph.Kept [] state) {index : Nat}
    (plain : forall entry, entry ∈ graph.entries index -> graph.isMergeKey entry.1 = false) :
    (state.node index).content = (graph.node index).content := by
  rcases kept.content index List.not_mem_nil with same | ⟨entries, holds, expanded⟩
  · exact same
  · rcases exists_content_of_held holds with ⟨written, content⟩
    rw [regular.held_of_plain content plain] at holds
    cases holds
    exact expanded.trans content.symm

/-- Sequences stand where they are written, and nowhere else. -/
theorem Kept.sequence_iff {state : Evaluation} (kept : graph.Kept [] state) {index : Nat}
    {items : List Nat} :
    (state.node index).content = .sequence items ↔
      (graph.node index).content = .sequence items := by
  constructor
  · intro standing
    rcases kept.content index List.not_mem_nil with same | ⟨_, _, expanded⟩
    · exact same.symm.trans standing
    · rw [standing] at expanded
      cases expanded
  · intro content
    exact (kept.content_of_plain (by rw [content]; rintro _ ⟨⟩)).trans content

theorem Kept.not_sequence {state : Evaluation} (kept : graph.Kept [] state) {index : Nat}
    (other : forall items, (state.node index).content ≠ .sequence items) (items : List Nat) :
    (graph.node index).content ≠ .sequence items :=
  fun content => other items (kept.sequence_iff.mpr content)

theorem Stands.exists_written {index : Nat} {content : Content} {entries : List (Nat × Nat)}
    (stands : graph.Stands index content) (isMapping : content = .mapping entries) :
    Exists fun written => (graph.node index).content = .mapping written := by
  rcases stands with same | ⟨found, holds, _⟩
  · exact ⟨entries, same.symm.trans isMapping⟩
  · exact exists_content_of_held holds

theorem Stands.exists_mapping {index : Nat} {content : Content} {written : List (Nat × Nat)}
    (stands : graph.Stands index content)
    (isMapping : (graph.node index).content = .mapping written) :
    Exists fun entries => content = .mapping entries := by
  rcases stands with same | ⟨found, _, expanded⟩
  · exact ⟨written, same.trans isMapping⟩
  · exact ⟨found, expanded⟩

/-- The mapping that is being expanded may be changed. -/
theorem Kept.withEntries {busy : List Nat} {index : Nat} {state : Evaluation}
    (kept : graph.Kept busy state) (isBusy : index ∈ busy) (entries : List (Nat × Nat)) :
    graph.Kept busy
      (state.withNode index { state.node index with content := .mapping entries }) where
  size := (Evaluation.size_withNode state index _).trans kept.size
  tag other := (Evaluation.node_withContent state index other _).1.trans (kept.tag other)
  start other := (Evaluation.node_withContent state index other _).2.trans (kept.start other)
  content other free := by
    have different : other ≠ index := fun same => free (same ▸ isBusy)
    rw [Evaluation.node_withNode_of_ne _ different]
    exact kept.content other free
  busy := kept.busy

/-- A mapping is done when its expansion stands in its place. -/
theorem Kept.release {busy : List Nat} {index : Nat} {state : Evaluation}
    (kept : graph.Kept (index :: busy) state) (expanded : graph.Expanded index state) :
    graph.Kept busy state :=
  { kept with
    content := by
      intro other free
      by_cases same : other = index
      · exact same ▸ .inr expanded
      · refine kept.content other fun member => ?_
        rcases List.mem_cons.mp member with isIndex | member
        · exact same isIndex
        · exact free member
    busy := fun other member => kept.busy other (List.mem_cons_of_mem _ member) }

theorem Kept.claim {busy : List Nat} {index : Nat} {state : Evaluation}
    {written : List (Nat × Nat)} (kept : graph.Kept busy state)
    (content : (graph.node index).content = .mapping written) :
    graph.Kept (index :: busy) state :=
  { kept with
    content := fun other free =>
      kept.content other fun member => free (List.mem_cons_of_mem _ member)
    busy := by
      intro other member
      rcases List.mem_cons.mp member with rfl | member
      · exact ⟨written, content⟩
      · exact kept.busy other member }

/-! ## One merge key -/

/-- An action expands a mapping in any table, while some mappings are being expanded. -/
def Expands (graph : Graph) (flatten : Nat -> Evaluate Unit) (busy : List Nat) (index : Nat) :
    Prop :=
  forall state written, (graph.node index).content = .mapping written -> graph.Kept busy state ->
    Ends (flatten index) state (graph.held index = none) fun _ after =>
      graph.Kept busy after ∧ Frame busy state after ∧ graph.Expanded index after

section

variable {flatten : Nat -> Evaluate Unit} {busy : List Nat} {index : Nat} {state : Evaluation}

theorem held_eq_none {index : Nat}
    (plain : forall written, (graph.node index).content ≠ .mapping written) :
    graph.held index = none := by
  cases holds : graph.held index with
  | none => rfl
  | some entries =>
      rcases exists_content_of_held holds with ⟨written, content⟩
      exact absurd content (plain written)

/-- The mappings in a list bring what they hold, the last one first. -/
theorem listedEntries_ends {items : List Nat}
    (expands : forall item, item ∈ items -> item ∉ busy ∧ graph.Expands flatten busy item)
    (kept : graph.Kept busy state) :
    Ends (listedEntries flatten index items) state (items.mapM graph.held = none)
      fun entries after => graph.Kept busy after ∧ Frame busy state after ∧
        (items.mapM graph.held).map (fun lists => lists.reverse.flatten) = some entries := by
  induction items generalizing state with
  | nil => exact ⟨kept, Frame.refl busy state, rfl⟩
  | cons item rest ih =>
      rcases expands item List.mem_cons_self with ⟨free, expanding⟩
      have stands := kept.content item free
      have unheld (plain : forall written, (state.node item).content ≠ .mapping written) :
          (item :: rest).mapM graph.held = none := by
        refine mapM_cons_eq_none_iff.mpr (.inl (held_eq_none fun written content => ?_))
        rcases stands.exists_mapping content with ⟨entries, isMapping⟩
        exact plain entries isMapping
      rw [listedEntries, ends_bind_iff, ends_node_iff]
      cases content : (state.node item).content with
      | scalar _ => exact unheld fun written => by rw [content]; rintro ⟨⟩
      | sequence _ => exact unheld fun written => by rw [content]; rintro ⟨⟩
      | mapping entries =>
          rcases stands.exists_written content with ⟨written, isMapping⟩
          refine (expanding state written isMapping kept).bind
            (fun missing => mapM_cons_eq_none_iff.mpr (.inl missing)) ?_
          rintro _ expanded ⟨keptThen, frame, brought, holds, standing⟩
          rw [ends_bind_iff, ends_entries_iff, Evaluation.entries_of_content standing]
          refine (ih (fun other member => expands other (List.mem_cons_of_mem _ member))
            keptThen).bind (fun missing => mapM_cons_eq_none_iff.mpr (.inr missing)) ?_
          rintro others after ⟨keptAfter, frameAfter, passes⟩
          rcases Option.map_eq_some_iff.mp passes with ⟨lists, found, rfl⟩
          refine ⟨keptAfter, frame.trans frameAfter, ?_⟩
          rw [mapM_cons_of_some holds found]
          simp

/-- What the value of a merge key brings. -/
theorem broughtEntries_ends {value : Nat}
    (expands : forall inner, inner ∈ graph.named value ->
      inner ∉ busy ∧ graph.Expands flatten busy inner)
    (kept : graph.Kept busy state) :
    Ends (broughtEntries flatten index value) state (graph.broughtBy graph.held value = none)
      fun entries after => graph.Kept busy after ∧ Frame busy state after ∧
        graph.broughtBy graph.held value = some entries := by
  rw [broughtEntries, ends_bind_iff, ends_node_iff, broughtBy]
  rw [named] at expands
  cases content : (graph.node value).content with
  | mapping written =>
      rw [content] at expands
      rcases expands value (List.mem_singleton_self value) with ⟨free, expanding⟩
      rcases (kept.content value free).exists_mapping content with ⟨entries, isMapping⟩
      simp only [isMapping]
      refine (expanding state written content kept).bind id ?_
      rintro _ after ⟨keptAfter, frame, brought, holds, standing⟩
      rw [ends_entries_iff, Evaluation.entries_of_content standing]
      exact ⟨keptAfter, frame, holds⟩
  | sequence items =>
      rw [content] at expands
      change forall inner, inner ∈ items -> _ at expands
      rw [kept.content_of_plain (by rw [content]; rintro _ ⟨⟩), content]
      refine (listedEntries_ends expands kept).imp (fun _ _ ends => ends) ?_
      intro missing
      simp only [missing, Option.map_none]
  | scalar text =>
      rw [kept.content_of_plain (by rw [content]; rintro _ ⟨⟩), content]
      rfl

/-- The merge keys from a position on are removed, and everything that they bring is given. -/
theorem mergedEntries_ends {steps position : Nat} {before rest : List (Nat × Nat)}
    (atPosition : before.length = position) (left : rest.length = steps)
    (keys : forall entry, entry ∈ rest -> (graph.node entry.1).tag ≠ Tag.core "value")
    (expands : forall entry, entry ∈ rest -> graph.isMergeKey entry.1 = true ->
      forall inner, inner ∈ graph.named entry.2 ->
        inner ∉ index :: busy ∧ graph.Expands flatten (index :: busy) inner)
    (free : index ∉ busy) (kept : graph.Kept (index :: busy) state)
    (content : (state.node index).content = .mapping (before ++ rest)) :
    Ends (mergedEntries flatten index steps position) state
      (graph.brought graph.held rest = none) fun merged after =>
        graph.Kept (index :: busy) after ∧ Frame busy state after ∧
          graph.brought graph.held rest = some merged ∧
            (after.node index).content = .mapping (before ++ graph.own rest) := by
  induction steps generalizing position before rest state with
  | zero =>
      rcases List.length_eq_zero_iff.mp left with rfl
      exact ⟨kept, Frame.refl busy state, rfl, content⟩
  | succ steps ih =>
      rcases List.exists_cons_of_length_eq_add_one left with ⟨⟨key, value⟩, others, rfl⟩
      have leftOver : others.length = steps := Nat.succ.inj left
      have keysLeft := fun entry member => keys entry (List.mem_cons_of_mem _ member)
      have expandsLeft := fun entry member => expands entry (List.mem_cons_of_mem _ member)
      have here : (before ++ (key, value) :: others)[position]? = some (key, value) := by
        simp [← atPosition]
      rw [mergedEntries, ends_bind_iff, ends_entries_iff, Evaluation.entries_of_content content]
      simp only [here]
      rw [ends_bind_iff, ends_node_iff, kept.tag key]
      by_cases isMerge : (graph.node key).tag = Tag.core "merge"
      · have merging : graph.isMergeKey key = true := decide_eq_true isMerge
        have erased : (before ++ (key, value) :: others).eraseIdx position = before ++ others := by
          simp [← atPosition, List.eraseIdx_append_of_length_le]
        rw [if_pos isMerge, ends_bind_iff, ends_setEntries_iff, erased, brought_cons_merge merging,
          own_cons_merge merging]
        have inTable := Evaluation.lt_size_of_content content
        have keptThere := kept.withEntries List.mem_cons_self (before ++ others)
        refine (broughtEntries_ends (expands (key, value) List.mem_cons_self merging)
          keptThere).bind (fun missing => by rw [missing]; rfl) ?_
        rintro brought middle ⟨keptMiddle, frame, brings⟩
        have contentMiddle : (middle.node index).content = .mapping (before ++ others) := by
          rw [frame.nodes index List.mem_cons_self, Evaluation.node_withNode_self _ inTable]
        refine (ih atPosition leftOver keysLeft expandsLeft keptMiddle contentMiddle).bind
          (fun missing => by rw [brings, missing]; rfl) ?_
        rintro merged after ⟨keptAfter, frameAfter, bringsLeft, contentAfter⟩
        refine ⟨keptAfter, ?_, by rw [brings, bringsLeft]; rfl, contentAfter⟩
        exact ((Frame.withNode free state _).trans frame.weaken).trans frameAfter
      · have plain : graph.isMergeKey key = false := decide_eq_false isMerge
        rw [if_neg isMerge, brought_cons_own plain, own_cons_own plain,
          if_neg (keys (key, value) List.mem_cons_self)]
        have contentThere :
            (state.node index).content = .mapping ((before ++ [(key, value)]) ++ others) := by
          rw [content, List.append_assoc]
          rfl
        have next := ih (List.length_append.trans (congrArg (· + 1) atPosition)) leftOver keysLeft
          expandsLeft kept contentThere
        rw [List.append_assoc] at next
        exact next

end

/-! ## A whole mapping -/

/-- What stands in the place of a mapping expands to what the mapping holds, and it has no merge
key but those of the mapping. -/
theorem Regular.expand_standing (regular : graph.Regular) {index : Nat} {here : List (Nat × Nat)}
    (stands : graph.Stands index (.mapping here)) :
    (graph.brought graph.held here).map (· ++ graph.own here) = graph.held index ∧
      (forall entry, entry ∈ here -> (graph.node entry.1).tag ≠ Tag.core "value") ∧
        forall entry, entry ∈ here -> graph.isMergeKey entry.1 = true ->
          entry ∈ graph.entries index := by
  rcases stands with written | ⟨entries, holds, expanded⟩
  · have content := written.symm
    refine ⟨?_, fun entry member => ?_, fun entry member _ => ?_⟩
    · rw [regular.held_eq, heldWith, content]
    · exact regular.keys index entry ((entries_of_content content).symm ▸ member)
    · exact (entries_of_content content).symm ▸ member
  · cases expanded
    have plain := plain_of_held holds
    refine ⟨?_, regular.key_of_held holds, fun entry member isMerge => ?_⟩
    · have expansion : graph.brought graph.held here = some [] ∧ graph.own here = here :=
        expand_plain plain
      rw [expansion.1, expansion.2, holds]
      rfl
    · rw [plain entry member] at isMerge
      cases isMerge

/-- A mapping is expanded while others are, as long as it merges none of them. -/
theorem Regular.flatten_ends (regular : graph.Regular) {depth index : Nat} {busy : List Nat}
    (within : graph.Within depth index)
    (clear : forall other, other ∈ busy -> ¬ Relation.ReflTransGen graph.Merges index other) :
    graph.Expands (flatten depth) busy index := by
  induction depth generalizing index busy with
  | zero => exact within.elim
  | succ depth ih =>
      intro state written content kept
      have free : index ∉ busy := fun member => clear index member .refl
      rcases (kept.content index free).exists_mapping content with ⟨here, standing⟩
      have stands := kept.content index free
      rw [standing] at stands
      rcases regular.expand_standing stands with ⟨expand, keys, ownMerges⟩
      have expands : forall entry, entry ∈ here -> graph.isMergeKey entry.1 = true ->
          forall inner, inner ∈ graph.named entry.2 -> inner ∉ index :: busy ∧
            graph.Expands (flatten depth) (index :: busy) inner := by
        intro entry member isMerge inner names
        have merges : graph.Merges index inner :=
          mem_merges.mpr ⟨entry, ownMerges entry member isMerge, isMerge, names⟩
        have clearInside : forall other, other ∈ index :: busy ->
            ¬ Relation.ReflTransGen graph.Merges inner other := by
          intro other isBusy reaches
          rcases List.mem_cons.mp isBusy with rfl | isBusy
          · exact regular.merges other (.head' merges reaches)
          · exact clear other isBusy (.head merges reaches)
        exact ⟨fun isBusy => clearInside inner isBusy .refl, ih (within inner merges) clearInside⟩
      rw [flatten, ends_bind_iff, ends_entries_iff, Evaluation.entries_of_content standing]
      have atStart : ([] : List (Nat × Nat)).length = 0 := rfl
      have merging := mergedEntries_ends atStart rfl keys expands free (kept.claim content) standing
      refine merging.bind (fun missing => ?_) ?_
      · rw [← expand, missing]
        rfl
      · rintro merged after ⟨keptAfter, frame, brings, contentAfter⟩
        have holds : graph.held index = some (merged ++ graph.own here) := by
          rw [← expand, brings]
          rfl
        cases merged with
        | nil => exact ⟨keptAfter.release ⟨_, holds, contentAfter⟩, frame, _, holds, contentAfter⟩
        | cons first others =>
            rw [if_pos (by rfl), ends_bind_iff, ends_entries_iff, ends_setEntries_iff,
              Evaluation.entries_of_content contentAfter]
            have inTable := Evaluation.lt_size_of_content contentAfter
            have keptThen := keptAfter.withEntries List.mem_cons_self
              (first :: others ++ graph.own here)
            have standingThen : graph.Expanded index (after.withNode index
                { after.node index with content := .mapping (first :: others ++ graph.own here) }) :=
              ⟨_, holds, by rw [Evaluation.node_withNode_self _ inTable]⟩
            exact ⟨keptThen.release standingThen, frame.trans (Frame.withNode free after _),
              standingThen⟩

end Graph
end Yaml
end RouteIR
