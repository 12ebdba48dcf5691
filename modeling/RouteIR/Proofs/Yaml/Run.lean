import RouteIR.Yaml.Shape

namespace RouteIR
namespace Yaml

/-!
# Runs of the evaluation

An evaluation changes its state as it goes and stops at the first failure.  What is true of its
end is put together from its steps here: a property of the value and the state that it ends
with, or a fault that explains why there are none.  No proof about an evaluation has to open
its sequencing, or an update of its tables.
-/

namespace Evaluation

def entries (state : Evaluation) (index : Nat) : List (Nat × Nat) :=
  match (state.node index).content with
  | .mapping entries => entries
  | _ => []

theorem entries_of_content {state : Evaluation} {index : Nat} {entries : List (Nat × Nat)}
    (content : (state.node index).content = .mapping entries) : state.entries index = entries := by
  rw [Evaluation.entries, content]

theorem node_withNode_self {state : Evaluation} {index : Nat} (node : Node)
    (inTable : index < state.nodes.size) : (state.withNode index node).node index = node := by
  simp [Evaluation.node, withNode, inTable]

theorem node_withNode_of_ne {state : Evaluation} {index other : Nat} (node : Node)
    (different : other ≠ index) : (state.withNode index node).node other = state.node other := by
  simp [Evaluation.node, withNode, Array.getElem?_setIfInBounds_ne different.symm]

theorem lt_size_of_content {state : Evaluation} {index : Nat} {entries : List (Nat × Nat)}
    (content : (state.node index).content = .mapping entries) : index < state.nodes.size := by
  refine Nat.lt_of_not_le fun beyond => ?_
  have absent : state.nodes[index]? = none := Array.getElem?_eq_none beyond
  rw [Evaluation.node, absent] at content
  cases content

/-- A node keeps its tag and its place when its content changes. -/
theorem node_withContent (state : Evaluation) (index other : Nat) (content : Content) :
    ((state.withNode index { state.node index with content := content }).node other).tag =
        (state.node other).tag ∧
      ((state.withNode index { state.node index with content := content }).node other).start =
        (state.node other).start := by
  by_cases same : other = index
  · subst same
    by_cases inTable : other < state.nodes.size
    · rw [node_withNode_self _ inTable]
      exact ⟨rfl, rfl⟩
    · simp [Evaluation.node, withNode, inTable]
  · rw [node_withNode_of_ne _ same]
    exact ⟨rfl, rfl⟩

theorem size_withNode (state : Evaluation) (index : Nat) (node : Node) :
    (state.withNode index node).nodes.size = state.nodes.size := by
  simp [withNode]

theorem size_withShape (state : Evaluation) (index : Nat) (shape : Shape) :
    (state.withShape index shape).shapes.size = state.shapes.size := by
  simp [withShape]

theorem shapes_withShape_self {state : Evaluation} {index : Nat} (shape : Shape)
    (inTable : index < state.shapes.size) :
    (state.withShape index shape).shapes[index]? = some (some shape) := by
  simp [withShape, inTable]

theorem shapes_withShape_of_ne {state : Evaluation} {index other : Nat} (shape : Shape)
    (different : other ≠ index) :
    (state.withShape index shape).shapes[other]? = state.shapes[other]? := by
  simp [withShape, Array.getElem?_setIfInBounds_ne different.symm]

end Evaluation

namespace Evaluate

variable {α β : Type}

/-- How an action ends: with a value and a state that have a property, or with a failure, and
then there is a fault. -/
def Ends (action : Evaluate α) (state : Evaluation) (fault : Prop)
    (post : α -> Evaluation -> Prop) : Prop :=
  match action state with
  | .ok (value, after) => post value after
  | .error _ => fault

variable {state : Evaluation} {fault weaker : Prop} {post : α -> Evaluation -> Prop}

theorem Ends.imp {action : Evaluate α} {further : α -> Evaluation -> Prop}
    (ends : Ends action state fault post)
    (implies : forall value after, post value after -> further value after)
    (excuses : fault -> weaker) : Ends action state weaker further := by
  rw [Ends] at ends ⊢
  cases outcome : action state with
  | error failure =>
      rw [outcome] at ends
      exact excuses ends
  | ok result =>
      rw [outcome] at ends
      exact implies result.1 result.2 ends

theorem ends_bind_iff {action : Evaluate β} {next : β -> Evaluate α} :
    Ends (action >>= next) state fault post ↔
      Ends action state fault fun value after => Ends (next value) after fault post := by
  have sequenced : (action >>= next) state = (action state).bind fun result =>
      next result.1 result.2 := rfl
  rw [Ends, Ends, sequenced]
  cases action state <;> rfl

/-- What is done first may fail for a reason of its own. -/
theorem Ends.bind {action : Evaluate β} {next : β -> Evaluate α}
    {middle : β -> Evaluation -> Prop} (ends : Ends action state weaker middle)
    (excuses : weaker -> fault)
    (continues : forall value after, middle value after -> Ends (next value) after fault post) :
    Ends (action >>= next) state fault post :=
  ends_bind_iff.mpr (ends.imp continues excuses)

@[simp] theorem ends_pure_iff {value : α} :
    Ends (pure value) state fault post ↔ post value state := Iff.rfl

@[simp] theorem ends_throw_iff {failure : Failure} :
    Ends (throw failure) state fault post ↔ fault := Iff.rfl

theorem ends_lift_iff {outcome : Except Failure α} :
    Ends (liftM outcome) state fault post ↔ match outcome with
      | .ok value => post value state
      | .error _ => fault := by
  cases outcome <;> rfl

@[simp] theorem ends_get_iff {post : Evaluation -> Evaluation -> Prop} :
    Ends get state fault post ↔ post state state := Iff.rfl

@[simp] theorem ends_modify_iff {change : Evaluation -> Evaluation}
    {post : Unit -> Evaluation -> Prop} :
    Ends (modify change) state fault post ↔ post () (change state) := Iff.rfl

@[simp] theorem ends_node_iff {index : Nat} {post : Node -> Evaluation -> Prop} :
    Ends (Evaluate.node index) state fault post ↔ post (state.node index) state := Iff.rfl

@[simp] theorem ends_entries_iff {index : Nat} {post : List (Nat × Nat) -> Evaluation -> Prop} :
    Ends (Evaluate.entries index) state fault post ↔ post (state.entries index) state := by
  rw [Evaluate.entries, ends_bind_iff, ends_node_iff, Evaluation.entries]
  cases (state.node index).content <;> rfl

@[simp] theorem ends_setEntries_iff {index : Nat} {entries : List (Nat × Nat)}
    {post : Unit -> Evaluation -> Prop} :
    Ends (setEntries index entries) state fault post ↔
      post () (state.withNode index { state.node index with content := .mapping entries }) :=
  Iff.rfl

@[simp] theorem ends_setShape_iff {index : Nat} {shape : Shape}
    {post : Unit -> Evaluation -> Prop} :
    Ends (setShape index shape) state fault post ↔ post () (state.withShape index shape) := Iff.rfl

end Evaluate
end Yaml
end RouteIR
