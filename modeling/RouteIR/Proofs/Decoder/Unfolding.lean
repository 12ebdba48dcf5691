import RouteIR.Decoder.Survey
import RouteIR.Proofs.TypeExpr.Reachability

namespace RouteIR

/-!
# Complete unfolding

Types can be unfolded completely where no component leads back to itself: every reference is
replaced by its component wherever it stands, as often as it is met.  The unfolding is a
relation between types and the leaves that are left in the end; over closed components without
a cycle each list of types has exactly one.
-/

namespace Components

/-- No component leads back to itself, whether through aliases, arrays or records. -/
def Acyclic (components : Components) : Prop :=
  forall name target, components.lookup name = some target ->
    ¬ components.Reaches [target] (.ref name)

/-- Components have no cycle where each refers only to components of a lower rank. -/
theorem acyclic_of_rank {components : Components} (rank : String -> Nat)
    (descends : forall entry, entry ∈ components -> forall inner, inner ∈ entry.2.names ->
      rank inner < rank entry.1) : components.Acyclic := by
  intro name target found returns
  have below : components.Hereditary fun type =>
      forall inner, inner ∈ type.names -> rank inner < rank name := by
    refine ⟨fun _ lower => lower, ?_, ?_⟩
    · intro fields field lower member inner named
      exact lower inner ((TypeExpr.mem_fieldNames_iff inner fields).mpr ⟨field, member, named⟩)
    · intro other otherTarget lower otherFound inner named
      have step := descends _ (Keyed.mem_of_lookup otherFound) inner named
      exact Nat.lt_trans step (lower other (by simp [TypeExpr.names]))
  have lower := returns.of_hereditary below
    (List.forall_mem_singleton.mpr (descends _ (Keyed.mem_of_lookup found)))
  exact Nat.lt_irrefl _ (lower name (by simp [TypeExpr.names]))

/-- The leaves of the complete unfolding of a list of types, from left to right.  A reference
is looked up each time it is met. -/
inductive Unfolds (components : Components) : List TypeExpr -> List TypeExpr -> Prop
  | nil : Unfolds components [] []
  | primitive {scalar : Primitive} {rest outer : List TypeExpr}
      (others : Unfolds components rest outer) :
      Unfolds components (.primitive scalar :: rest) (.primitive scalar :: outer)
  | enum {values : List Literal} {rest outer : List TypeExpr}
      (others : Unfolds components rest outer) :
      Unfolds components (.enum values :: rest) (.enum values :: outer)
  | array {element : TypeExpr} {rest inner outer : List TypeExpr}
      (inside : Unfolds components [element] inner) (others : Unfolds components rest outer) :
      Unfolds components (.array element :: rest) (inner ++ outer)
  | record {fields : List (Field TypeExpr)} {rest inner outer : List TypeExpr}
      (inside : Unfolds components (fields.map (·.type)) inner)
      (others : Unfolds components rest outer) :
      Unfolds components (.record fields :: rest) (inner ++ outer)
  | ref {name : String} {target : TypeExpr} {rest inner outer : List TypeExpr}
      (found : components.lookup name = some target)
      (inside : Unfolds components [target] inner) (others : Unfolds components rest outer) :
      Unfolds components (.ref name :: rest) (inner ++ outer)

variable {components : Components}

theorem Unfolds.unique {types leaves : List TypeExpr} (unfolds : components.Unfolds types leaves)
    {others : List TypeExpr} (again : components.Unfolds types others) : others = leaves := by
  induction unfolds generalizing others with
  | nil =>
      cases again
      rfl
  | primitive _ ih =>
      cases again with
      | primitive rest => rw [ih rest]
  | enum _ ih =>
      cases again with
      | enum rest => rw [ih rest]
  | array _ _ insideIh othersIh =>
      cases again with
      | array inside rest => rw [insideIh inside, othersIh rest]
  | record _ _ insideIh othersIh =>
      cases again with
      | record inside rest => rw [insideIh inside, othersIh rest]
  | ref found _ _ insideIh othersIh =>
      cases again with
      | ref otherFound inside rest =>
          rw [found] at otherFound
          cases otherFound
          rw [insideIh inside, othersIh rest]

/-- A list of types unfolds to the unfoldings of its parts, one after the other. -/
theorem Unfolds.split {left right leaves : List TypeExpr}
    (unfolds : components.Unfolds (left ++ right) leaves) :
    Exists fun leftLeaves => Exists fun rightLeaves => components.Unfolds left leftLeaves ∧
      components.Unfolds right rightLeaves ∧ leaves = leftLeaves ++ rightLeaves := by
  induction left generalizing leaves with
  | nil => exact ⟨[], leaves, .nil, unfolds, rfl⟩
  | cons type rest ih =>
      cases unfolds with
      | primitive others =>
          rcases ih others with ⟨leftLeaves, rightLeaves, first, second, rfl⟩
          exact ⟨_, rightLeaves, .primitive first, second, rfl⟩
      | enum others =>
          rcases ih others with ⟨leftLeaves, rightLeaves, first, second, rfl⟩
          exact ⟨_, rightLeaves, .enum first, second, rfl⟩
      | array inside others =>
          rcases ih others with ⟨leftLeaves, rightLeaves, first, second, rfl⟩
          exact ⟨_, rightLeaves, .array inside first, second, (List.append_assoc _ _ _).symm⟩
      | record inside others =>
          rcases ih others with ⟨leftLeaves, rightLeaves, first, second, rfl⟩
          exact ⟨_, rightLeaves, .record inside first, second, (List.append_assoc _ _ _).symm⟩
      | ref found inside others =>
          rcases ih others with ⟨leftLeaves, rightLeaves, first, second, rfl⟩
          exact ⟨_, rightLeaves, .ref found inside first, second, (List.append_assoc _ _ _).symm⟩

/-- Every leaf is among what the types lead to. -/
theorem Unfolds.reaches {types leaves : List TypeExpr} (unfolds : components.Unfolds types leaves)
    {leaf : TypeExpr} (member : leaf ∈ leaves) : components.Reaches types leaf := by
  induction unfolds with
  | nil => cases member
  | primitive _ ih =>
      rcases List.mem_cons.mp member with rfl | outer
      · exact .root List.mem_cons_self
      · exact (ih outer).of_rest
  | enum _ ih =>
      rcases List.mem_cons.mp member with rfl | outer
      · exact .root List.mem_cons_self
      · exact (ih outer).of_rest
  | array _ _ insideIh othersIh =>
      rcases List.mem_append.mp member with inner | outer
      · exact (insideIh inner).of_element
      · exact (othersIh outer).of_rest
  | record _ _ insideIh othersIh =>
      rcases List.mem_append.mp member with inner | outer
      · exact (insideIh inner).of_fields
      · exact (othersIh outer).of_rest
  | ref found _ _ insideIh othersIh =>
      rcases List.mem_append.mp member with inner | outer
      · exact (insideIh inner).of_target found
      · exact (othersIh outer).of_rest

/-- Over closed components without a cycle, types that refer to components can be unfolded.
The components that are open are those which nothing leads back to; each is opened once on
the way from a root to a leaf, so the nodes that are left to go through become fewer. -/
theorem exists_unfolds (closed : components.Closed) (acyclic : components.Acyclic)
    (types : List TypeExpr) (opened : List String)
    (refers : forall type, type ∈ types -> type.RefersTo components)
    (apart : forall name, name ∈ opened -> ¬ components.Reaches types (.ref name)) :
    Exists fun leaves => components.Unfolds types leaves := by
  have hereditary := closed.hereditary
  have ofRest {type : TypeExpr} {rest : List TypeExpr}
      (refers : forall one, one ∈ type :: rest -> one.RefersTo components)
      (apart : forall name, name ∈ opened -> ¬ components.Reaches (type :: rest) (.ref name))
      (smaller : Survey.load rest < Survey.load types) :=
    exists_unfolds closed acyclic rest opened (List.forall_mem_of_forall_mem_cons refers)
      fun name member reached => apart name member reached.of_rest
  match types with
  | [] => exact ⟨[], .nil⟩
  | .primitive scalar :: rest =>
      rcases ofRest refers apart (by simp [Survey.load, TypeExpr.weight]) with ⟨outer, others⟩
      exact ⟨_, .primitive others⟩
  | .enum values :: rest =>
      rcases ofRest refers apart (by simp [Survey.load, TypeExpr.weight]) with ⟨outer, others⟩
      exact ⟨_, .enum others⟩
  | .array element :: rest =>
      rcases ofRest refers apart (by simp [Survey.load, TypeExpr.weight]) with ⟨outer, others⟩
      rcases exists_unfolds closed acyclic [element] opened
        (List.forall_mem_singleton.mpr (hereditary.element _ (refers _ List.mem_cons_self)))
        fun name member reached => apart name member reached.of_element with ⟨inner, inside⟩
      exact ⟨_, .array inside others⟩
  | .record fields :: rest =>
      rcases ofRest refers apart (by simp [Survey.load, TypeExpr.weight]) with ⟨outer, others⟩
      have fieldsRefer : forall type, type ∈ fields.map (·.type) -> type.RefersTo components :=
        List.forall_mem_map.mpr fun field member =>
          hereditary.field _ field (refers _ List.mem_cons_self) member
      rcases exists_unfolds closed acyclic (fields.map (·.type)) opened fieldsRefer
        fun name member reached => apart name member reached.of_fields with ⟨inner, inside⟩
      exact ⟨_, .record inside others⟩
  | .ref name :: rest =>
      rcases ofRest refers apart (by simp [Survey.load, TypeExpr.weight]) with ⟨outer, others⟩
      have fresh : name ∉ opened := fun member => apart name member (.root List.mem_cons_self)
      rcases (Keyed.exists_lookup_iff name components).mpr (refers _ List.mem_cons_self).ref with
        ⟨target, found⟩
      have fewer := Survey.pending_visit opened name target components (by simpa using fresh) found
      rcases exists_unfolds closed acyclic [target] (name :: opened)
        (List.forall_mem_singleton.mpr (closed.target found)) (by
          intro other member reached
          rcases List.mem_cons.mp member with rfl | before
          · exact acyclic other target found reached
          · exact apart other before (reached.of_target found)) with ⟨inner, inside⟩
      exact ⟨_, .ref found inside others⟩
termination_by Survey.load types + Survey.pending opened components
decreasing_by
  · exact Nat.add_lt_add_right smaller _
  · simp only [Survey.load, TypeExpr.weight]
    omega
  · simp only [Survey.load, Survey.load_fields, TypeExpr.weight]
    omega
  · simp only [Survey.load, TypeExpr.weight]
    omega

end Components
end RouteIR
