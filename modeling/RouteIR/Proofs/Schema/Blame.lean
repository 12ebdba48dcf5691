import RouteIR.Proofs.Schema.Reading

namespace RouteIR
namespace Schema

/-!
# The node that is to blame

A schema is refused for a check on one node.  The checks on a node come before its children
are read, and the children are read in document order.  So the refusal of a node is its own,
or else that of its first child that is refused, seen from one step above.  A property whose key
has no text is refused for its key, and is no way to any node.
-/

open Outcome (failure?)

/-- The node of a property and the step that leads to it, absent where the key has no text. -/
def propertyChild? (property : Tree × Tree) : Option (Step × Tree) :=
  if property.1.isLegible then some (.property property.1.display, property.2) else none

/-- The nodes inside a node that are read with it, each with the step that leads to it. -/
def children : Tree -> List (Option (Step × Tree))
  | .map entries _ =>
      match form entries with
      | .object => (Tree.field "properties" entries).entries.map propertyChild?
      | .array => (Tree.lookup? "items" entries).toList.map fun item => some (.items, item)
      | _ => []
  | _ => []

/-- The refusal that a node itself gives rise to, whatever its children are. -/
def refusal? : Tree -> Option Refusal
  | .map entries _ =>
      match form entries with
      | .reference target => (failure? (Reference.parse target)).map (.fault ∘ .here)
      | .composition keyword => some (.fault (.here (.unsupported (.composition keyword))))
      | .enumeration values => (failure? (readEnum values)).map (.fault ∘ .here)
      | .object => (failure? (objectParts entries)).map .fault
      | .array =>
          if (Tree.lookup? "items" entries).isNone then
            some (.fault (.here (.malformed .arrayWithoutItems)))
          else none
      | .primitive kind => failure? (readPrimitive kind entries)
      | .untyped => some (.fault (.here (.malformed .schemaWithoutType)))
      | .unknown type => some (.fault (.here (.unsupported (.schemaType type))))
  | _ => some (.fault (.here (.malformed .schemaNotMapping)))

/-- The refusal of a child, seen from its parent. -/
def refusalUnder? : Option (Step × Tree) -> Option Refusal
  | none => some .illegible
  | some child => (failure? (read child.2)).map (.under child.1)

theorem failure?_readField (property : Tree × Tree) :
    failure? (readField property) = refusalUnder? (propertyChild? property) := by
  rw [readField, Outcome.failure?_map, Tree.withText, propertyChild?]
  split
  · rw [Outcome.failure?_mapError]
    rfl
  · rfl

/-- A node is refused for itself, or else for its first child that is refused. -/
theorem failure?_read (node : Tree) :
    failure? (read node) = (refusal? node).or ((children node).findSome? refusalUnder?) := by
  cases node with
  | map entries label =>
      rw [read, refusal?, children]
      cases recognised : form entries with
      | reference target => simp
      | composition keyword => rfl
      | enumeration values => simp
      | object =>
          dsimp only
          split
          · next fault parts => simp [parts]
          · next properties required parts =>
              rw [Outcome.failure?_map, readFields_eq_mapM, Outcome.failure?_mapM, parts,
                ← objectParts_eq_ok parts, List.findSome?_map]
              simp only [failure?_readField]
              rfl
      | array =>
          dsimp only
          split
          · next absent => simp [absent, refuse]
          · next item found => simp [found, refusalUnder?]
      | primitive kind => simp
      | untyped => rfl
      | unknown type => rfl
  | _ =>
      rw [not_read_of_leaf (by intro entries label same; cases same)]
      rfl

/-! ## Along the children -/

theorem eq_of_propertyChild? {property : Tree × Tree} {child : Step × Tree}
    (named : propertyChild? property = some child) :
    child = (.property property.1.display, property.2) := by
  rw [propertyChild?] at named
  split at named <;> cases named
  rfl

theorem sizeOf_child {node : Tree} {child : Step × Tree} (member : some child ∈ children node) :
    sizeOf child.2 < sizeOf node := by
  cases node with
  | map entries label =>
      rw [children] at member
      split at member
      · rcases List.mem_map.mp member with ⟨property, propertyMember, named⟩
        rw [eq_of_propertyChild? named]
        cases declared : Tree.field "properties" entries with
        | map properties propertiesLabel =>
            rw [declared] at propertyMember
            have inner := Tree.sizeOf_field declared
            have smaller := List.sizeOf_lt_of_mem propertyMember
            rcases property with ⟨key, value⟩
            simp only [Prod.mk.sizeOf_spec, Tree.entries] at smaller
            simp only [Tree.map.sizeOf_spec]
            omega
        | _ =>
            rw [declared] at propertyMember
            cases propertyMember
      · rcases List.mem_map.mp member with ⟨item, found, same⟩
        cases same
        exact sizeOf_item (Option.mem_toList.mp found) label
      · cases member
  | _ => cases member

/-- Induction along the nodes inside a node. -/
theorem holds_of_children {motive : Tree -> Prop}
    (step : forall node, (forall child, some child ∈ children node -> motive child.2) ->
      motive node)
    (node : Tree) : motive node := by
  apply step node
  intro child member
  have smaller := sizeOf_child member
  exact holds_of_children step child.2
termination_by sizeOf node
decreasing_by exact smaller

end Schema
end RouteIR
