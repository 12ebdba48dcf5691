import RouteIR.Yaml.Node
import RouteIR.Yaml.Scalar

namespace RouteIR
namespace Yaml

/-!
# From nodes to shapes

Every node is evaluated once, and an alias shares the outcome.  The members of
sequences and sets wait in a queue until everything before them is done, which
fixes the order in which faults are found.  A strict loader evaluates a mapping at
once with its keys and values, so it cannot contain itself; a plain loader lets
mappings wait as well.

Merge keys are expanded before anything else happens to a mapping: the entries that
they bring come first.  After that no key of a mapping may occur twice where the
loader is strict, whether the repetition was written or merged.
-/

/-- How mappings are loaded: a strict loader refuses those that repeat a key, a plain one
keeps the last value of a repeated key. -/
inductive Loader where
  | strict
  | plain
deriving DecidableEq, Repr

/-- What a node evaluates to, with the members still given as nodes. -/
inductive Shape where
  | scalar (value : Tree)
  | list (items : List Nat)
  | pairs (entries : List (Nat × Nat))
  | set (keys : List Nat)
  | map (entries : List (Tree × Nat))
deriving Repr

/-- An entry of a mapping whose key has been evaluated. -/
structure KeyedEntry where
  identity : Identity
  key : Tree
  value : Nat
deriving Repr

/-- Writes an entry: in place when its key is there, else at the end. -/
def KeyedEntry.insert (entry : KeyedEntry) : List KeyedEntry → List KeyedEntry
  | [] => [entry]
  | first :: rest =>
      if first.identity = entry.identity then { first with value := entry.value } :: rest
      else first :: entry.insert rest

/-- The first of equal keys, with the value of the last. -/
def lastWins (entries : List KeyedEntry) : List KeyedEntry :=
  entries.foldl (fun kept entry => entry.insert kept) []

/-- The shape of a mapping with the given entries. -/
def Shape.ofEntries (entries : List KeyedEntry) : Shape :=
  .map (entries.map fun entry => (entry.key, entry.value))

structure Evaluation where
  nodes : Array Node
  shapes : Array (Option Shape)
  /-- The nodes being evaluated now, the innermost first. -/
  active : List Nat
  /-- The nodes whose members have still to be evaluated, in the order of the queue. -/
  pending : List Nat

/-- Stands in for a node that the table does not hold, which no index denotes. -/
def Node.absent : Node := ⟨Tag.core "null", .scalar "", ⟨0, 0, 0⟩⟩

namespace Evaluation

def node (state : Evaluation) (index : Nat) : Node := state.nodes[index]?.getD .absent

/-- The shape of a node that has been evaluated. -/
def shape? (state : Evaluation) (index : Nat) : Option Shape :=
  match state.shapes[index]? with
  | none => some (.scalar .null)
  | some found => found

def withNode (state : Evaluation) (index : Nat) (node : Node) : Evaluation :=
  { state with nodes := state.nodes.set! index node }

def withShape (state : Evaluation) (index : Nat) (shape : Shape) : Evaluation :=
  { state with shapes := state.shapes.set! index (some shape) }

end Evaluation

abbrev Evaluate := StateT Evaluation (Except Failure)

namespace Evaluate

def node (index : Nat) : Evaluate Node := return (← get).node index

/-- The entries of a node, none unless it is a mapping. -/
def entries (index : Nat) : Evaluate (List (Nat × Nat)) := do
  match (← node index).content with
  | .mapping entries => return entries
  | _ => return []

def setEntries (index : Nat) (entries : List (Nat × Nat)) : Evaluate Unit :=
  modify fun state =>
    state.withNode index { state.node index with content := .mapping entries }

def setTag (index : Nat) (tag : String) : Evaluate Unit :=
  modify fun state => state.withNode index { state.node index with tag := tag }

def setShape (index : Nat) (shape : Shape) : Evaluate Unit :=
  modify fun state => state.withShape index shape

/-! ## Merge keys -/

section Merging

variable (flatten : Nat → Evaluate Unit) (index : Nat)

/-- The entries of the mappings in a list, the last one first. -/
def listedEntries : List Nat → Evaluate (List (Nat × Nat))
  | [] => return []
  | item :: rest => do
      let itemNode ← node item
      match itemNode.content with
      | .mapping _ =>
          flatten item
          let brought ← entries item
          return (← listedEntries rest) ++ brought
      | content => throw (.notMergeable (← node index).start content.kind true itemNode.start)

/-- The entries of a merged mapping, or of the mappings in a list. -/
def broughtEntries (value : Nat) : Evaluate (List (Nat × Nat)) := do
  let valueNode ← node value
  match valueNode.content with
  | .mapping _ =>
      flatten value
      entries value
  | .sequence items => listedEntries flatten index items
  | .scalar _ => throw (.notMergeable (← node index).start .scalar false valueNode.start)

/-- Removes the merge keys from a position on, in so many steps, and gives the entries that
they bring.  A value key becomes an ordinary text on the way. -/
def mergedEntries : Nat → Nat → Evaluate (List (Nat × Nat))
  | 0, _ => return []
  | steps + 1, position => do
      let here ← entries index
      match here[position]? with
      | none => return []
      | some (key, value) =>
          let tag := (← node key).tag
          if tag = Tag.core "merge" then
            setEntries index (here.eraseIdx position)
            let brought ← broughtEntries flatten index value
            return brought ++ (← mergedEntries steps position)
          else
            if tag = Tag.core "value" then setTag key (Tag.core "str")
            mergedEntries steps (position + 1)

end Merging

/-- Expands the merge keys of a mapping.  Each of them is removed before the mapping that it
names is expanded, so the depth is bounded by their number. -/
def flatten : Nat → Nat → Evaluate Unit
  | 0, _ => return
  | depth + 1, index => do
      let merged ← mergedEntries (flatten depth) index (← entries index).length 0
      if !merged.isEmpty then
        setEntries index (merged ++ (← entries index))

/-! ## Nodes -/

/-- The text of a scalar.  A mapping lends the text under its value key. -/
def scalarText : Nat → Nat → Evaluate String
  | 0, _ => throw .endlessText
  | depth + 1, index => do
      let here ← node index
      match here.content with
      | .scalar text => return text
      | .sequence _ => throw (.wrongKind .scalar .sequence here.start)
      | .mapping pairs =>
          let state ← get
          let isValueKey (pair : Nat × Nat) : Bool := (state.node pair.1).tag = Tag.core "value"
          match pairs.find? isValueKey with
          | some (_, value) => scalarText depth value
          | none => throw (.wrongKind .scalar .mapping here.start)

def scalarTags : List String :=
  ["null", "bool", "int", "float", "binary", "timestamp", "str"].map Tag.core

def queuedTags : List String := ["seq", "set", "omap", "pairs"].map Tag.core

/-- Whether nodes of a tag wait in the queue for their members. -/
def isQueued (loader : Loader) (tag : String) : Bool :=
  queuedTags.contains tag || loader = .plain && tag = Tag.core "map"

/-- The value of a key, unless it is a compound one. -/
def keyOf (index : Nat) : Evaluate (Except Compound (Identity × Tree)) := do
  match (← get).shape? index with
  | some (.scalar value) => return value.identity.map fun identity => (identity, value)
  | some (.list _) | some (.pairs _) => return .error .list
  | some (.set _) => return .error .set
  | some (.map _) | none => return .error .map

/-- The value of a scalar node. -/
def scalar (depth index : Nat) : Evaluate Tree := do
  let here ← node index
  let text ← scalarText depth index
  if here.tag = Tag.core "timestamp" && here.content.kind ≠ .scalar then
    throw (.notAnEntry .sequence)
  Scalar.value (index + 1) here.tag text here.start

section Members

variable (evaluate : Nat → Evaluate Unit) (start : Mark)

/-- The entries of a mapping whose keys are all different.  All keys are evaluated
before the first value. -/
def uniqueKeys : List Identity → List (Nat × Nat) → Evaluate (List KeyedEntry)
  | _, [] => return []
  | seen, (key, value) :: rest => do
      evaluate key
      match ← keyOf key with
      | .error kind => throw (.compoundKey kind)
      | .ok (identity, keyValue) =>
          if seen.contains identity then
            throw (.duplicateKey start keyValue (← node key).start)
          return ⟨identity, keyValue, value⟩ :: (← uniqueKeys (identity :: seen) rest)

/-- The entries of a mapping, key by value. -/
def hashableEntries : List (Nat × Nat) → Evaluate (List KeyedEntry)
  | [] => return []
  | (key, value) :: rest => do
      evaluate key
      match ← keyOf key with
      | .error _ => throw (.unhashableKey start (← node key).start)
      | .ok (identity, keyValue) =>
          evaluate value
          return ⟨identity, keyValue, value⟩ :: (← hashableEntries rest)

/-- The pairs of an ordered map: mappings of one entry each. -/
def orderedPairs (activity : Activity) : List Nat → Evaluate (List (Nat × Nat))
  | [] => return []
  | item :: rest => do
      let itemNode ← node item
      match itemNode.content with
      | .mapping [(key, value)] =>
          evaluate key
          evaluate value
          return (key, value) :: (← orderedPairs activity rest)
      | .mapping several => throw (.notSinglePair activity start several.length itemNode.start)
      | content => throw (.notAPair activity start content.kind itemNode.start)

end Members

/-- The shape of a mapping that is evaluated at once. -/
def uniqueEntries (bound : Nat) (evaluate : Nat → Evaluate Unit) (index : Nat) :
    Evaluate Shape := do
  let here ← node index
  match here.content with
  | .scalar text =>
      if text.isEmpty then throw (.wrongKind .mapping .scalar here.start)
      throw (.notAnEntry .scalar)
  | .sequence items =>
      if items.isEmpty then throw (.wrongKind .mapping .sequence here.start)
      throw (.notAnEntry .sequence)
  | .mapping _ =>
      flatten bound index
      let pairs ← entries index
      let keyed ← uniqueKeys evaluate here.start [] pairs
      pairs.forM fun pair => evaluate pair.2
      return .ofEntries keyed

/-- Evaluates a node, unless that has been done. -/
def evaluate (loader : Loader) (bound : Nat) : Nat → Nat → Evaluate Unit
  | 0, _ => return
  | depth + 1, index => do
      if ((← get).shape? index).isSome then return
      let here ← node index
      if (← get).active.contains index then throw (.recursiveNode here.start)
      modify fun state => { state with active := index :: state.active }
      if isQueued loader here.tag then
        setShape index (.list [])
        modify fun state => { state with pending := state.pending ++ [index] }
      else if here.tag = Tag.core "map" then
        setShape index (← uniqueEntries bound (evaluate loader bound depth) index)
      else if scalarTags.contains here.tag then
        setShape index (.scalar (← scalar bound index))
      else throw (.unknownTag here.tag here.start)
      modify fun state => { state with active := state.active.erase index }

/-! ## Queued members -/

/-- The keys and values of a mapping that waited in the queue. -/
def queuedEntries (bound : Nat) (evaluate : Nat → Evaluate Unit) (index : Nat) :
    Evaluate (List (Nat × Nat) × List KeyedEntry) := do
  let here ← node index
  match here.content with
  | .mapping _ =>
      flatten bound index
      let pairs ← entries index
      return (pairs, ← hashableEntries evaluate here.start pairs)
  | content => throw (.wrongKind .mapping content.kind here.start)

/-- The shape of a queued node, whose members are evaluated. -/
def queuedShape (bound : Nat) (evaluate : Nat → Evaluate Unit) (index : Nat) :
    Evaluate Shape := do
  let here ← node index
  if here.tag = Tag.core "seq" then
    match here.content with
    | .sequence items =>
        items.forM evaluate
        return .list items
    | content => throw (.wrongKind .sequence content.kind here.start)
  else if here.tag = Tag.core "set" then
    let (pairs, _) ← queuedEntries bound evaluate index
    return .set (pairs.map Prod.fst)
  else if here.tag = Tag.core "map" then
    let (_, keyed) ← queuedEntries bound evaluate index
    return .ofEntries (lastWins keyed)
  else
    let activity : Activity := if here.tag = Tag.core "omap" then .orderedMap else .pairs
    match here.content with
    | .sequence items => return .pairs (← orderedPairs evaluate here.start activity items)
    | content => throw (.notASequence activity here.start content.kind)

/-- Works off the queue.  Each node enters it once. -/
def completeAll (bound : Nat) (evaluate : Nat → Evaluate Unit) : Nat → Evaluate Unit
  | 0 => return
  | rounds + 1 => do
      match (← get).pending with
      | [] => return
      | index :: rest =>
          modify fun state => { state with pending := rest }
          setShape index (← queuedShape bound evaluate index)
          completeAll bound evaluate rounds

end Evaluate

/-- A bound for every recursion over a graph: more than its nodes, entries and items
together. -/
def Graph.bound (graph : Graph) : Nat :=
  graph.nodes.foldl (fun total node =>
    match node.content with
    | .scalar _ => total + 1
    | .sequence items => total + 1 + items.length
    | .mapping entries => total + 1 + entries.length) 2

/-- The state before anything is evaluated. -/
def Graph.unevaluated (graph : Graph) : Evaluation where
  nodes := graph.nodes
  shapes := Array.replicate graph.nodes.size none
  active := []
  pending := []

/-- The shapes of the nodes that a node leads to. -/
def Graph.shapes (loader : Loader) (graph : Graph) (root : Nat) :
    Except Failure (Array (Option Shape)) := do
  let evaluate := Evaluate.evaluate loader graph.bound graph.bound
  let work : Evaluate Unit := do
    evaluate root
    Evaluate.completeAll graph.bound evaluate (graph.nodes.size + 1)
  let (_, state) ← work.run graph.unevaluated
  return state.shapes

end Yaml
end RouteIR
