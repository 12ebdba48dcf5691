import RouteIR.Yaml.Tag
import RouteIR.Yaml.Token.Lexer

namespace RouteIR
namespace Yaml

/-!
# From tokens to nodes

The nodes of a document form a graph, as an alias stands for the node that its
anchor names, even while that node is still being read.  A node is a number, an
index into the table of all nodes.

The grammar looks one token ahead.  Asking for a token that the scan could not
deliver raises the scan's failure, so the first fault in reading order is the one
reported, whether it concerns characters, grammar or anchors.
-/

inductive Content where
  | scalar (text : String)
  | sequence (items : List Nat)
  | mapping (entries : List (Nat × Nat))
deriving Repr

def Content.kind : Content → NodeKind
  | scalar _ => .scalar
  | sequence _ => .sequence
  | mapping _ => .mapping

structure Node where
  tag : String
  content : Content
  start : Mark
deriving Repr

/-- The table of nodes and the root of the document, if there is a document. -/
structure Graph where
  nodes : Array Node
  root : Option Nat
deriving Repr

structure Composer where
  tokens : List Token
  /-- Raised by a request for a token beyond the list. -/
  failure : Failure
  handles : List (String × String)
  anchors : List (String × Nat)
  nodes : Array Node

abbrev Compose := StateT Composer (Except Failure)

namespace Compose

def reject {α : Type} : Compose α := throw .syntaxError

def peek : Compose Token := do
  let composer ← get
  match composer.tokens with
  | token :: _ => return token
  | [] => throw composer.failure

def take : Compose Token := do
  let token ← peek
  modify fun composer => { composer with tokens := composer.tokens.tail }
  return token

/-- Whether the next token is of one of the given kinds. -/
def at? (kinds : List TokenKind) : Compose Bool := return kinds.contains (← peek).kind

/-- Adds a node to the table. -/
def add (node : Node) : Compose Nat := do
  let composer ← get
  set { composer with nodes := composer.nodes.push node }
  return composer.nodes.size

def setContent (index : Nat) (content : Content) : Compose Unit :=
  modify fun composer =>
    { composer with nodes := composer.nodes.modify index ({ · with content := content }) }

/-- The node of a place where nothing is written. -/
def empty (place : Mark) : Compose Nat :=
  add ⟨Tag.ofPlain "", .scalar "", place⟩

/-- Binds an anchor, which may be bound once. -/
def bind? (anchor : Option String) (node : Nat) : Compose Unit :=
  modify fun composer =>
    match anchor with
    | none => composer
    | some name => { composer with anchors := (name, node) :: composer.anchors }

def checkAnchor (anchor : Option String) (start : Mark) : Compose Unit := do
  let composer ← get
  match anchor with
  | none => return
  | some name =>
      match composer.anchors.lookup name with
      | none => return
      | some first =>
          let place := (composer.nodes[first]?.map (·.start)).getD start
          throw (.duplicateAnchor name place start)

/-- The full tag of a tag as written. -/
def fullTag (text : TagText) : Compose String := do
  match text.handle with
  | none => return text.suffix
  | some handle =>
      match (← get).handles.lookup handle with
      | none => reject
      | some meaning => return meaning ++ text.suffix

/-- What stands in front of a node's content. -/
structure Properties where
  anchor : Option String
  tag : Option String
  start : Option Mark
  stop : Mark

/-- An anchor and a tag, in either order, both optional. -/
def properties : Compose Properties := do
  let first ← peek
  match first.kind with
  | .anchor name =>
      let _ ← take
      let second ← peek
      match second.kind with
      | .tag text =>
          let _ ← take
          return ⟨some name, some (← fullTag text), some first.start, second.stop⟩
      | _ => return ⟨some name, none, some first.start, first.stop⟩
  | .tag text =>
      let _ ← take
      let second ← peek
      match second.kind with
      | .anchor name =>
          let _ ← take
          return ⟨some name, some (← fullTag text), some first.start, second.stop⟩
      | _ => return ⟨none, some (← fullTag text), some first.start, first.stop⟩
  | _ => return ⟨none, none, none, first.start⟩

/-- A tag that leaves the choice to the content. -/
def isUnspecific : Option String → Bool
  | none => true
  | some tag => tag = "!"

def collectionTag (default : String) (tag : Option String) : String :=
  if isUnspecific tag then Tag.core default else tag.getD ""

/-- The tag of a scalar.  Text that is not plain is a text unless its tag says
otherwise. -/
def scalarTag (text : String) (plain : Bool) (tag : Option String) : String :=
  match tag with
  | none => if plain then Tag.ofPlain text else Tag.core "str"
  | some tag => if tag = "!" then Tag.ofPlain text else tag

/-- Where a node may stand, which decides what may open it. -/
structure Context where
  block : Bool
  /-- Hyphens may stand at the column of the mapping key. -/
  indentless : Bool

def Context.inFlow : Context := ⟨false, false⟩

def Context.inBlock : Context := ⟨true, false⟩

def Context.inMapping : Context := ⟨true, true⟩

mutual

/-- A node with its properties. -/
def node : Nat → Context → Compose Nat
  | 0, _ => reject
  | fuel + 1, context => do
      let first ← peek
      match first.kind with
      | .alias name =>
          let _ ← take
          match (← get).anchors.lookup name with
          | some index => return index
          | none => throw (.undefinedAlias name first.start)
      | _ =>
          let props ← properties
          let next ← peek
          let start := props.start.getD next.start
          let collection (tag : String) (content : Content) (rest : Compose Content) :
              Compose Nat := do
            checkAnchor props.anchor start
            let index ← add ⟨collectionTag tag props.tag, content, start⟩
            bind? props.anchor index
            setContent index (← rest)
            return index
          let sequence (rest : Compose (List Nat)) : Compose Nat :=
            collection "seq" (.sequence []) (return .sequence (← rest))
          let mapping (rest : Compose (List (Nat × Nat))) : Compose Nat :=
            collection "map" (.mapping []) (return .mapping (← rest))
          let leaf (text tag : String) : Compose Nat := do
            checkAnchor props.anchor start
            let index ← add ⟨tag, .scalar text, start⟩
            bind? props.anchor index
            return index
          match next.kind with
          | .scalar text plain =>
              let _ ← take
              leaf text (scalarTag text plain props.tag)
          | .flowSequenceStart =>
              sequence do
                let _ ← take
                flowItems fuel true
          | .flowMappingStart =>
              mapping do
                let _ ← take
                flowEntries fuel true
          | kind =>
              if context.indentless && kind = .blockEntry then
                sequence (indentlessItems fuel)
              else if context.block && kind = .blockSequenceStart then
                sequence do
                  let _ ← take
                  blockItems fuel
              else if context.block && kind = .blockMappingStart then
                mapping do
                  let _ ← take
                  blockEntries fuel
              else if props.anchor.isSome || props.tag.isSome then
                leaf "" (scalarTag "" true props.tag)
              else reject

/-- A node, or an empty one where a token follows that cannot start a node.  The token
before it has been consumed. -/
def nodeUnless : Nat → Context → Token → List TokenKind → Compose Nat
  | 0, _, _, _ => reject
  | fuel + 1, context, before, kinds => do
      if ← at? kinds then empty before.stop else node fuel context

/-- The value of an entry, empty where no colon follows the key. -/
def entryValue : Nat → Context → List TokenKind → Compose Nat
  | 0, _, _ => reject
  | fuel + 1, context, kinds => do
      let next ← peek
      if next.kind = .value then
        let colon ← take
        nodeUnless fuel context colon kinds
      else empty next.start

def blockItems : Nat → Compose (List Nat)
  | 0 => reject
  | fuel + 1 => do
      if ← at? [.blockEntry] then
        let hyphen ← take
        let item ← nodeUnless fuel .inBlock hyphen [.blockEntry, .blockEnd]
        return item :: (← blockItems fuel)
      else if ← at? [.blockEnd] then
        let _ ← take
        return []
      else reject

def indentlessItems : Nat → Compose (List Nat)
  | 0 => reject
  | fuel + 1 => do
      if ← at? [.blockEntry] then
        let hyphen ← take
        let item ← nodeUnless fuel .inBlock hyphen [.blockEntry, .key, .value, .blockEnd]
        return item :: (← indentlessItems fuel)
      else return []

def blockEntries : Nat → Compose (List (Nat × Nat))
  | 0 => reject
  | fuel + 1 => do
      if ← at? [.key] then
        let mark ← take
        let key ← nodeUnless fuel .inMapping mark [.key, .value, .blockEnd]
        let value ← entryValue fuel .inMapping [.key, .value, .blockEnd]
        return (key, value) :: (← blockEntries fuel)
      else if ← at? [.blockEnd] then
        let _ ← take
        return []
      else reject

/-- The items between brackets; a key among them makes a mapping of one entry. -/
def flowItems : Nat → Bool → Compose (List Nat)
  | 0, _ => reject
  | fuel + 1, first => do
      if ← at? [.flowSequenceEnd] then
        let _ ← take
        return []
      if !first then
        if ← at? [.flowEntry] then
          let _ ← take
        else reject
      let next ← peek
      if next.kind = .key then
        let index ← add ⟨Tag.core "map", .mapping [], next.start⟩
        let mark ← take
        let key ← nodeUnless fuel .inFlow mark [.value, .flowEntry, .flowSequenceEnd]
        let value ← entryValue fuel .inFlow [.flowEntry, .flowSequenceEnd]
        setContent index (.mapping [(key, value)])
        return index :: (← flowItems fuel false)
      else if next.kind = .flowSequenceEnd then
        let _ ← take
        return []
      else
        let item ← node fuel .inFlow
        return item :: (← flowItems fuel false)

/-- The entries between braces; a node without colon is a key with an empty value. -/
def flowEntries : Nat → Bool → Compose (List (Nat × Nat))
  | 0, _ => reject
  | fuel + 1, first => do
      if ← at? [.flowMappingEnd] then
        let _ ← take
        return []
      if !first then
        if ← at? [.flowEntry] then
          let _ ← take
        else reject
      let next ← peek
      if next.kind = .key then
        let mark ← take
        let key ← nodeUnless fuel .inFlow mark [.value, .flowEntry, .flowMappingEnd]
        let value ← entryValue fuel .inFlow [.flowEntry, .flowMappingEnd]
        return (key, value) :: (← flowEntries fuel false)
      else if next.kind = .flowMappingEnd then
        let _ ← take
        return []
      else
        let key ← node fuel .inFlow
        let value ← empty (← peek).start
        return (key, value) :: (← flowEntries fuel false)

end

/-! ## Documents -/

def defaultHandles : List (String × String) := [("!", "!"), ("!!", Tag.core "")]

/-- The directives in front of a document: one version, which must be 1, and handles
that are declared once. -/
def directives : Nat → Bool → List (String × String) → Compose (List (String × String))
  | 0, _, _ => reject
  | fuel + 1, versioned, handles => do
      match (← peek).kind with
      | .directive (.version major _) =>
          if versioned || major ≠ 1 then reject
          let _ ← take
          directives fuel true handles
      | .directive (.tagHandle handle meaning) =>
          if (handles.lookup handle).isSome then reject
          let _ ← take
          directives fuel versioned ((handle, meaning) :: handles)
      | .directive .other =>
          let _ ← take
          directives fuel versioned handles
      | _ => return handles

def skipDocumentEnds : Nat → Compose Unit
  | 0 => return
  | fuel + 1 => do
      if ← at? [.documentEnd] then
        let _ ← take
        skipDocumentEnds fuel

/-- The start of a document behind its directives and hyphens, absent at the end of
the stream. -/
def explicitStart (fuel : Nat) : Compose (Option Mark) := do
  skipDocumentEnds fuel
  let first ← peek
  if first.kind = .streamEnd then return none
  let handles ← directives fuel false []
  if !(← at? [.documentStart]) then reject
  let _ ← take
  modify fun composer => { composer with handles := handles ++ defaultHandles }
  return some first.start

/-- The root of the only document of a stream. -/
def singleDocument (fuel : Nat) : Compose (Option Nat) := do
  let _ ← take
  let first ← peek
  let isExplicit := match first.kind with
    | .directive _ | .documentStart | .streamEnd => true
    | _ => false
  let begun ← if isExplicit then explicitStart fuel else pure (some first.start)
  if begun.isNone then return none
  let next ← peek
  let isEmpty := isExplicit && match next.kind with
    | .directive _ | .documentStart | .documentEnd | .streamEnd => true
    | _ => false
  let root ← if isEmpty then empty next.start else node fuel .inBlock
  if ← at? [.documentEnd] then
    let _ ← take
  match ← explicitStart fuel with
  | none => return some root
  | some second =>
      let place := ((← get).nodes[root]?.map (·.start)).getD second
      throw (.secondDocument place second)

end Compose

/-- The graph of a text's only document. -/
def Graph.ofText (text : List Char) : Except Failure Graph := do
  let (tokens, failure) := Token.ofText text
  let composer : Composer :=
    { tokens := tokens
      failure := failure.getD .syntaxError
      handles := Compose.defaultHandles
      anchors := []
      nodes := #[] }
  let (root, composer) ← (Compose.singleDocument (4 * tokens.length + 8)).run composer
  return ⟨composer.nodes, root⟩

end Yaml
end RouteIR
