import RouteIR.Proofs.Yaml.Merging

namespace RouteIR
namespace Yaml

/-!
# What is true while a graph is evaluated

The table of shapes grows: a node in it either waits in the queue with an empty list in its
place, or it is settled with the shape that it denotes.  The queue has an end since a node that
enters it was not in the table before.  Nothing here depends on the loader, except that a strict
one settles no mapping with a repeated key and lets no mapping wait.
-/

open Evaluate

namespace Evaluation

/-- The number of nodes without shape. -/
def unshaped (state : Evaluation) : Nat := state.shapes.countP fun shape => shape.isNone

/-- The nodes that wait for their members, and those that may still enter the queue. -/
def work (state : Evaluation) : Nat := state.pending.length + state.unshaped

end Evaluation

/-- What an evaluation leaves as it was: nodes keep having a shape, the queue comes closer to its
end, and no node is active any longer. -/
structure Later (state after : Evaluation) : Prop where
  shaped : forall index, (state.shape? index).isSome = true -> (after.shape? index).isSome = true
  work : after.work ≤ state.work
  active : after.active = state.active

theorem Later.refl (state : Evaluation) : Later state state :=
  ⟨fun _ shaped => shaped, Nat.le_refl _, rfl⟩

theorem Later.trans {first second third : Evaluation} (before : Later first second)
    (after : Later second third) : Later first third where
  shaped index isShaped := after.shaped index (before.shaped index isShaped)
  work := Nat.le_trans after.work before.work
  active := after.active.trans before.active

theorem Frame.later {busy : List Nat} {state after : Evaluation}
    (frame : Frame busy state after) : Later state after where
  shaped index shaped := by
    rw [Evaluation.shape?, frame.shapes]
    exact shaped
  work := by
    rw [Evaluation.work, Evaluation.work, Evaluation.unshaped, Evaluation.unshaped, frame.shapes,
      frame.pending]
  active := frame.active

/-- Whether a loader refuses a node. -/
def Loader.Refuses (loader : Loader) (graph : Graph) (index : Nat) : Prop :=
  graph.shape? index = none ∨
    loader = .strict ∧ (¬ graph.DistinctKeys index ∨ graph.NestsItself index)

/-- A loader refuses one of the nodes that are constructed for a root. -/
def Loader.Fails (loader : Loader) (graph : Graph) (root : Nat) : Prop :=
  Exists fun index => graph.Constructs root index ∧ loader.Refuses graph index

section

variable (loader : Loader) (graph : Graph) (root : Nat)

/-- A node with the shape that it denotes, whose members are in the table. -/
structure Settled (state : Evaluation) (index : Nat) (shape : Shape) : Prop where
  denotes : graph.shape? index = some shape
  distinct : loader = .strict -> graph.DistinctKeys index
  leads : forall inner, inner ∈ graph.leadsTo index -> (state.shape? inner).isSome = true

/-- The table of a state in which some nodes have left the queue and are not yet settled. -/
structure Sound (current : List Nat) (state : Evaluation) : Prop where
  kept : graph.Kept [] state
  size : state.shapes.size = graph.nodes.size
  nodup : (current ++ state.pending).Nodup
  waiting : forall index, index ∈ current ++ state.pending ->
    state.shapes[index]? = some (some (.list [])) ∧
      isQueued loader (graph.node index).tag = true
  constructed : forall index shape, state.shapes[index]? = some (some shape) ->
    graph.Constructs root index
  settled : forall index shape, state.shapes[index]? = some (some shape) ->
    index ∉ current ++ state.pending -> Settled loader graph state index shape

end

variable {loader : Loader} {graph : Graph} {root : Nat} {current : List Nat} {state after : Evaluation}

theorem Settled.later {index : Nat} {shape : Shape} (settled : Settled loader graph state index shape)
    (later : Later state after) : Settled loader graph after index shape :=
  { settled with leads := fun inner leads => later.shaped inner (settled.leads inner leads) }

/-! ## Changes of the state -/

namespace Evaluation

theorem shapes_withShape_cases {index other : Nat} {shape found : Shape}
    (isFound : (state.withShape index shape).shapes[other]? = some (some found)) :
    (other = index ∧ found = shape) ∨
      (other ≠ index ∧ state.shapes[other]? = some (some found)) := by
  by_cases same : other = index
  · subst same
    by_cases inTable : other < state.shapes.size
    · rw [shapes_withShape_self shape inTable] at isFound
      cases isFound
      exact .inl ⟨rfl, rfl⟩
    · simp [withShape, inTable] at isFound
  · rw [shapes_withShape_of_ne shape same] at isFound
    exact .inr ⟨same, isFound⟩

theorem isSome_shape?_withShape (state : Evaluation) (index : Nat) (shape : Shape) :
    ((state.withShape index shape).shape? index).isSome = true := by
  by_cases inTable : index < state.shapes.size
  · rw [shape?, shapes_withShape_self shape inTable]
    rfl
  · simp [shape?, withShape, inTable]

theorem unshaped_withShape_of_none {index : Nat} (first : state.shapes[index]? = some none)
    (shape : Shape) : (state.withShape index shape).unshaped + 1 = state.unshaped := by
  rcases Array.getElem?_eq_some_iff.mp first with ⟨inTable, isNone⟩
  have positive : 0 < state.shapes.countP fun shape => shape.isNone :=
    Array.countP_pos_iff.mpr ⟨none, Array.mem_of_getElem? first, rfl⟩
  have count := Array.countP_set (p := fun shape : Option Shape => shape.isNone)
    (a := some shape) inTable
  simp only [isNone, Option.isNone_none, Option.isNone_some, if_true, Bool.false_eq_true,
    if_false] at count
  simp only [unshaped, withShape, Array.set!_eq_setIfInBounds, Array.setIfInBounds_def, inTable,
    dif_pos, count]
  omega

theorem unshaped_withShape_le (state : Evaluation) (index : Nat) (shape : Shape) :
    (state.withShape index shape).unshaped ≤ state.unshaped := by
  by_cases inTable : index < state.shapes.size
  · have count := Array.countP_set (p := fun shape : Option Shape => shape.isNone)
      (a := some shape) inTable
    simp only [unshaped, withShape, Array.set!_eq_setIfInBounds, Array.setIfInBounds_def, inTable,
      dif_pos, count]
    simp
  · simp [unshaped, withShape, Array.setIfInBounds_def, inTable]

theorem later_withShape (state : Evaluation) (index : Nat) (shape : Shape) :
    Later state (state.withShape index shape) where
  shaped other shaped := by
    by_cases same : other = index
    · exact same ▸ isSome_shape?_withShape state index shape
    · rw [shape?, shapes_withShape_of_ne shape same]
      exact shaped
  work := Nat.add_le_add_left (unshaped_withShape_le state index shape) _
  active := rfl

/-- A node of the table without shape. -/
theorem shapes_eq_of_unshaped {index : Nat} (isNone : ¬ (state.shape? index).isSome = true) :
    state.shapes[index]? = some none := by
  rw [shape?] at isNone
  split at isNone
  · simp at isNone
  · simp_all

end Evaluation

/-! ## Changes that keep the table sound -/

theorem Sound.of_frame (sound : Sound loader graph root current state) {busy : List Nat}
    (kept : graph.Kept [] after) (frame : Frame busy state after) :
    Sound loader graph root current after where
  kept := kept
  size := by rw [frame.shapes, sound.size]
  nodup := by
    rw [frame.pending]
    exact sound.nodup
  waiting := by
    rw [frame.pending, frame.shapes]
    exact sound.waiting
  constructed := by
    rw [frame.shapes]
    exact sound.constructed
  settled := by
    rw [frame.pending, frame.shapes]
    exact fun index shape isFound free =>
      (sound.settled index shape isFound free).later frame.later

/-- The table does not depend on what is active. -/
theorem Sound.withActive (sound : Sound loader graph root current state) (active : List Nat) :
    Sound loader graph root current { state with active := active } where
  kept := ⟨sound.kept.size, sound.kept.tag, sound.kept.start, sound.kept.content, sound.kept.busy⟩
  size := sound.size
  nodup := sound.nodup
  waiting := sound.waiting
  constructed := sound.constructed
  settled index shape isFound free :=
    let settled := sound.settled index shape isFound free
    ⟨settled.denotes, settled.distinct, settled.leads⟩

theorem Sound.lt_size (sound : Sound loader graph root current state) {index : Nat}
    {found : Option Shape} (isFound : state.shapes[index]? = some found) :
    index < graph.nodes.size :=
  sound.size ▸ (Array.getElem?_eq_some_iff.mp isFound).1

/-- A node takes the shape that it denotes, when it does not wait or has left the queue. -/
theorem Sound.settle (sound : Sound loader graph root current state) {index : Nat} {shape : Shape}
    {remaining : List Nat} (fewer : remaining.Sublist current)
    (rest : forall other, other ∈ current -> other ∈ remaining ∨ other = index)
    (free : index ∉ remaining ++ state.pending) (constructs : graph.Constructs root index)
    (settled : Settled loader graph state index shape) :
    Sound loader graph root remaining (state.withShape index shape) where
  kept := ⟨sound.kept.size, sound.kept.tag, sound.kept.start, sound.kept.content, sound.kept.busy⟩
  size := (Evaluation.size_withShape state index shape).trans sound.size
  nodup := (fewer.append_right _).nodup sound.nodup
  waiting other member := by
    have different : other ≠ index := fun same => free (same ▸ member)
    rw [Evaluation.shapes_withShape_of_ne shape different]
    exact sound.waiting other ((fewer.append_right _).subset member)
  constructed other found isFound := by
    rcases Evaluation.shapes_withShape_cases isFound with ⟨rfl, _⟩ | ⟨_, before⟩
    · exact constructs
    · exact sound.constructed other found before
  settled other found isFound elsewhere := by
    have later := Evaluation.later_withShape state index shape
    rcases Evaluation.shapes_withShape_cases isFound with ⟨rfl, rfl⟩ | ⟨different, before⟩
    · exact settled.later later
    · refine (sound.settled other found before fun member => ?_).later later
      rcases List.mem_append.mp member with member | member
      · rcases rest other member with stays | same
        · exact elsewhere (List.mem_append_left _ stays)
        · exact different same
      · exact elsewhere (List.mem_append_right _ member)

/-- A node without shape enters the queue, with an empty list in its place. -/
theorem Sound.enter (sound : Sound loader graph root current state) {index : Nat}
    (first : state.shapes[index]? = some none) (constructs : graph.Constructs root index)
    (queued : isQueued loader (graph.node index).tag = true) :
    Sound loader graph root current
      { state.withShape index (.list []) with pending := state.pending ++ [index] } where
  kept := ⟨sound.kept.size, sound.kept.tag, sound.kept.start, sound.kept.content, sound.kept.busy⟩
  size := (Evaluation.size_withShape state index _).trans sound.size
  nodup := by
    have outside : index ∉ current ++ state.pending := fun member => by
      have waits := (sound.waiting index member).1
      rw [first] at waits
      cases waits
    change (current ++ (state.pending ++ [index])).Nodup
    rw [← List.append_assoc]
    refine List.nodup_append.mpr ⟨sound.nodup, by simp, ?_⟩
    intro other member last isLast same
    exact outside (List.mem_singleton.mp isLast ▸ same ▸ member)
  waiting other member := by
    change other ∈ current ++ (state.pending ++ [index]) at member
    change (state.withShape index (.list [])).shapes[other]? = _ ∧ _
    by_cases same : other = index
    · subst same
      have inTable := (Array.getElem?_eq_some_iff.mp first).1
      exact ⟨Evaluation.shapes_withShape_self _ inTable, queued⟩
    · rw [Evaluation.shapes_withShape_of_ne _ same]
      rw [← List.append_assoc] at member
      rcases List.mem_append.mp member with before | isLast
      · exact sound.waiting other before
      · exact absurd (List.mem_singleton.mp isLast) same
  constructed other found isFound := by
    rcases Evaluation.shapes_withShape_cases isFound with ⟨rfl, _⟩ | ⟨_, before⟩
    · exact constructs
    · exact sound.constructed other found before
  settled other found isFound elsewhere := by
    change other ∉ current ++ (state.pending ++ [index]) at elsewhere
    rw [← List.append_assoc, List.mem_append, not_or, List.mem_singleton] at elsewhere
    have later := Evaluation.later_withShape state index (.list [])
    rcases Evaluation.shapes_withShape_cases isFound with ⟨rfl, _⟩ | ⟨_, before⟩
    · exact absurd rfl elsewhere.2
    · have settled := sound.settled other found before elsewhere.1
      exact ⟨settled.denotes, settled.distinct, fun inner leads =>
        later.shaped inner (settled.leads inner leads)⟩

/-- The queue does not get longer than the nodes that may enter it. -/
theorem later_enter {index : Nat} (first : state.shapes[index]? = some none) :
    Later state { state.withShape index (.list []) with pending := state.pending ++ [index] } where
  shaped := (Evaluation.later_withShape state index (.list [])).shaped
  work := by
    have fewer := Evaluation.unshaped_withShape_of_none first (.list [])
    change (state.pending ++ [index]).length + (state.withShape index (.list [])).unshaped ≤
      state.pending.length + state.unshaped
    rw [List.length_append, List.length_singleton]
    omega
  active := rfl

/-! ## What is in the table -/

/-- What the table has for a node, unless the node waits, is what it denotes. -/
theorem Sound.denotes (sound : Sound loader graph root current state) {index : Nat} {shape : Shape}
    (isFound : state.shape? index = some shape) (free : index ∉ current ++ state.pending) :
    graph.shape? index = some shape := by
  rw [Evaluation.shape?] at isFound
  cases found : state.shapes[index]? with
  | none =>
      rw [found] at isFound
      cases isFound
      exact Graph.shape?_of_size_le (sound.size ▸ Array.getElem?_eq_none_iff.mp found)
  | some inTable =>
      rw [found] at isFound
      exact (sound.settled index shape (found.trans (congrArg some isFound)) free).denotes

/-- The tags of the nodes that wait in the queue. -/
theorem isQueued_iff {tag : String} :
    isQueued loader tag = true ↔
      tag = Tag.core "seq" ∨ tag = Tag.core "set" ∨ (loader = .plain ∧ tag = Tag.core "map") ∨
        tag = Tag.core "omap" ∨ tag = Tag.core "pairs" := by
  simp only [isQueued, queuedTags, Bool.or_eq_true, Bool.and_eq_true, decide_eq_true_eq,
    List.contains_iff_mem, List.map_cons, List.map_nil, List.mem_cons, List.not_mem_nil, or_false]
  tauto

theorem value?_of_isQueued {index : Nat} (queued : isQueued loader (graph.node index).tag = true) :
    graph.value? index = none := by
  have compound : Exists fun name => name ∈ ["seq", "set", "map", "omap", "pairs"] ∧
      (graph.node index).tag = Tag.core name := by
    rcases isQueued_iff.mp queued with tag | tag | ⟨_, tag⟩ | tag | tag
    · exact ⟨"seq", by simp, tag⟩
    · exact ⟨"set", by simp, tag⟩
    · exact ⟨"map", by simp, tag⟩
    · exact ⟨"omap", by simp, tag⟩
    · exact ⟨"pairs", by simp, tag⟩
  rcases compound with ⟨name, compound, tag⟩
  exact Graph.value?_of_tag compound tag

/-- The key that is found for a node is the one that it denotes. -/
theorem Sound.keyOf_ends (sound : Sound loader graph root current state) {key : Nat}
    (shaped : (state.shape? key).isSome = true) :
    Ends (keyOf key) state False fun found after =>
      after = state ∧ found.toOption = graph.key? key := by
  rcases Option.isSome_iff_exists.mp shaped with ⟨shape, isFound⟩
  have reads (value : Tree) : shape = .scalar value ↔ graph.value? key = some value := by
    by_cases waits : key ∈ current ++ state.pending
    · rcases sound.waiting key waits with ⟨placed, queued⟩
      rw [Evaluation.shape?, placed] at isFound
      cases isFound
      rw [value?_of_isQueued queued]
      exact ⟨nofun, nofun⟩
    · rw [← Graph.shape?_eq_scalar_iff, sound.denotes isFound waits, Option.some_inj]
  have unread (compound : forall value, shape ≠ .scalar value) : graph.key? key = none := by
    cases isValue : graph.value? key with
    | none => rw [Graph.key?, isValue, Option.bind_none]
    | some value => exact absurd ((reads value).mpr isValue) (compound value)
  rw [keyOf, ends_bind_iff, ends_get_iff, isFound]
  cases shape with
  | scalar value =>
      rw [Graph.key?, (reads value).mp rfl, Option.bind_some]
      exact ⟨rfl, by cases value.identity <;> rfl⟩
  | list _ => exact ⟨rfl, (unread nofun).symm⟩
  | pairs _ => exact ⟨rfl, (unread nofun).symm⟩
  | set _ => exact ⟨rfl, (unread nofun).symm⟩
  | map _ => exact ⟨rfl, (unread nofun).symm⟩

/-- A mapping lends its text under a value key, and there is none. -/
theorem Sound.scalarText_ends (regular : graph.Regular)
    (sound : Sound loader graph root current state) (depth index : Nat) :
    Ends (scalarText (depth + 1) index) state
      (forall text, (graph.node index).content ≠ .scalar text) fun text after =>
        after = state ∧ (graph.node index).content = .scalar text := by
  rw [scalarText, ends_bind_iff, ends_node_iff]
  have stands := sound.kept.content index List.not_mem_nil
  cases content : (state.node index).content with
  | scalar text =>
      rw [content] at stands
      rcases stands with written | ⟨_, _, isMapping⟩
      · exact ⟨rfl, written.symm⟩
      · cases isMapping
  | sequence items =>
      rw [content] at stands
      rcases stands with written | ⟨_, _, isMapping⟩
      · exact fun text => by rw [← written]; rintro ⟨⟩
      · cases isMapping
  | mapping entries =>
      rcases stands.exists_written content with ⟨written, isMapping⟩
      rw [content] at stands
      have keys := (regular.expand_standing stands).2.1
      have absent : entries.find? (fun pair => (state.node pair.1).tag = Tag.core "value") =
          none := by
        refine List.find?_eq_none.mpr fun entry member => ?_
        rw [sound.kept.tag entry.1, decide_eq_true_eq]
        exact keys entry member
      simp only [ends_bind_iff, ends_get_iff, absent, ends_throw_iff]
      exact fun text => by rw [isMapping]; rintro ⟨⟩

/-- The text of a scalar is found, and its value is the one that the node denotes. -/
theorem Sound.scalar_ends (regular : graph.Regular)
    (sound : Sound loader graph root current state) {bound index : Nat} (positive : 0 < bound)
    (isScalar : scalarTags.contains (graph.node index).tag = true) :
    Ends (scalar bound index) state (graph.value? index = none) fun value after =>
      after = state ∧ graph.value? index = some value := by
  rcases Nat.exists_eq_add_one_of_ne_zero (Nat.ne_of_gt positive) with ⟨depth, rfl⟩
  rw [scalar, ends_bind_iff, ends_node_iff, sound.kept.tag index, sound.kept.start index,
    Graph.value?]
  simp only [isScalar, if_true]
  refine (sound.scalarText_ends regular depth index).bind (fun compound => ?_) ?_
  · cases content : (graph.node index).content with
    | scalar text => exact absurd content (compound text)
    | sequence _ => rfl
    | mapping _ => rfl
  · rintro text after ⟨rfl, content⟩
    have standing : (after.node index).content = .scalar text := by
      rw [sound.kept.content_of_plain (by rw [content]; rintro _ ⟨⟩), content]
    rw [if_neg (by simp [standing, Content.kind]), ends_lift_iff, content]
    dsimp only
    cases Scalar.value (index + 1) (graph.node index).tag text (graph.node index).start with
    | error failure => rfl
    | ok value => exact ⟨rfl, rfl⟩

end Yaml
end RouteIR
