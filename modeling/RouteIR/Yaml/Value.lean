import RouteIR.Tree.Slots
import RouteIR.Yaml.Shape

namespace RouteIR
namespace Yaml

/-!
# From shapes to trees

A node is finished when its members are: its tree is built from theirs, once for all the
aliases that name it.  Going over the unfinished nodes until none of them gets finished gives
every tree that ends.

The nodes that are left lead to a value inside itself, and their trees have no end.  They are
built in layers, the members in one layer being taken from the layer below, and every value
in a layer is labelled with its node.  In a tree of enough layers everything that can be read
or written lies above the cut, since whoever goes down in it stops where a label recurs.
-/

/-- The members of a set, each value once. -/
def distinctMembers (members : List Tree) : List Tree :=
  (members.foldl (fun (kept, seen) member =>
    match member.identity with
    | .ok identity =>
        if seen.contains identity then (kept, seen) else (member :: kept, identity :: seen)
    | .error _ => (member :: kept, seen)) (([] : List Tree), ([] : List Identity))).1.reverse

namespace Shape

/-- The nodes whose trees the tree of a shape is built from. -/
def members : Shape → List Nat
  | scalar _ => []
  | list items => items
  | pairs entries => entries.flatMap fun entry => [entry.1, entry.2]
  | set keys => keys
  | map entries => entries.map Prod.snd

/-- The tree of a shape over the trees of its members, labelled with its node unless it ends. -/
def tree (node : Option Nat) (member : Nat → Tree) (shape : Shape) : Tree :=
  let label (position : Nat) : Option Label := node.map fun index => (index, position)
  match shape with
  | scalar value => value
  | list items => .list (items.map member) (label 0)
  | pairs entries =>
      .list (entries.zipIdx.map fun (entry, position) =>
        .tuple [member entry.1, member entry.2] (label (position + 1))) (label 0)
  | set keys => .set (Tree.inSlotOrder (distinctMembers (keys.map member)))
  | map entries => .map (entries.map fun entry => (entry.1, member entry.2)) (label 0)

end Shape

/-- The trees of the nodes that have one yet. -/
abbrev Trees := Array (Option Tree)

namespace Trees

def tree? (trees : Trees) (index : Nat) : Option Tree := (trees[index]?).join

/-- The tree of a node, null where it is cut off. -/
def tree (trees : Trees) (index : Nat) : Tree := (trees.tree? index).getD .null

end Trees

section

variable (shapes : Array (Option Shape))

def shapeAt (index : Nat) : Shape := ((shapes[index]?).join).getD (.scalar .null)

/-- Gives a node its tree if it can be finished, and else adds it to those that are left. -/
def finish (state : Trees × List Nat) (index : Nat) : Trees × List Nat :=
  let (trees, left) := state
  let shape := shapeAt shapes index
  if shape.members.all fun member => (trees.tree? member).isSome then
    (trees.set! index (some (shape.tree none trees.tree)), left)
  else (trees, index :: left)

/-- Finishes all nodes that can be, and gives those that are left. -/
def finishAll (trees : Trees) (left : List Nat) : Trees × List Nat :=
  let (next, still) := left.foldl (finish shapes) (trees, [])
  if still.length < left.length then finishAll next still.reverse else (next, left)
termination_by left.length
decreasing_by simp_all

/-- The trees of endless nodes, one layer above the given ones. -/
def addLayer (endless : List Nat) (below : Trees) : Trees :=
  endless.foldl (fun above index =>
    above.set! index (some ((shapeAt shapes index).tree (some index) below.tree))) below

/-- As many layers as a reader goes through and a writer after it.  Neither meets a node twice
between two lists, and the reader goes through three lists at most. -/
def layerCount (endless : List Nat) : Nat := if endless.isEmpty then 0 else 5 * endless.length + 8

/-- The trees of all nodes. -/
def allTrees : Trees :=
  let nodes := (List.range shapes.size).reverse
  let (finished, endless) := finishAll shapes (Array.replicate shapes.size none) nodes
  (List.range (layerCount endless)).foldl (fun below _ => addLayer shapes endless below) finished

end

/-- The tree of a graph's root, null for a stream without document. -/
def Graph.evaluate (loader : Loader) (graph : Graph) : Except Failure Tree := do
  match graph.root with
  | none => return .null
  | some root => return (allTrees (← graph.shapes loader root)).tree root

/-- Reads the only document of a text. -/
def read (loader : Loader) (text : String) : Except Failure Tree := do
  (← Graph.ofText text.toList).evaluate loader

end Yaml
end RouteIR
