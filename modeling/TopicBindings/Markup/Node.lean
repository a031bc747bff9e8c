import TopicBindings.Markup.Lexer
import TopicBindings.Markup.Tag

/-!
Documents as graphs of nodes. Every node has a number, and a collection names its members by their numbers, so
that an alias is the number of the node with its anchor, even where the alias stands inside that node. A
graph is composed from the tokens of a stream that holds at most one document.
-/

namespace TopicBindings.Markup

abbrev NodeId := Nat

inductive Content where
  | scalar (text : String)
  | sequence (items : List NodeId)
  | mapping (entries : List (NodeId × NodeId))
  deriving DecidableEq, Repr

structure Node where
  tag : Tag
  content : Content
  deriving DecidableEq, Repr

/-- The node for what is left out. -/
def Node.empty : Node :=
  ⟨.null, .scalar ""⟩

abbrev Nodes := Array Node

def Nodes.node (nodes : Nodes) (id : NodeId) : Node :=
  nodes[id]?.getD .empty

structure Graph where
  nodes : Nodes
  root : NodeId

/-- The state of composing: the tokens that remain with the fault behind them, the nodes so far, and their
anchors. -/
structure Composer where
  tokens : Tokens
  nodes : Nodes
  anchors : List (String × NodeId)

abbrev Compose := StateT Composer (Except Fault)

namespace Compose

def fail {α : Type} (rule : Malformation) : Compose α :=
  throw (.malformed rule)

def peek : Compose Token := do
  let c ← get
  match c.tokens.ready with
  | t :: _ => return t
  | [] => throw c.tokens.ending

def advance : Compose Unit :=
  modify fun c => { c with tokens := { c.tokens with ready := c.tokens.ready.tail } }

/-- Adds a node, and its anchor if that is a new one. -/
def add (anchor : Option String) (tag : Tag) (content : Content) : Compose NodeId := do
  let c ← get
  let id := c.nodes.size
  match anchor with
  | some name =>
      if (c.anchors.lookup name).isSome then fail .repeatedAnchor
      set { c with nodes := c.nodes.push ⟨tag, content⟩, anchors := (name, id) :: c.anchors }
  | none => set { c with nodes := c.nodes.push ⟨tag, content⟩ }
  return id

def fill (id : NodeId) (content : Content) : Compose Unit :=
  modify fun c => { c with nodes := c.nodes.modify id fun n => { n with content } }

def aliased (name : String) : Compose NodeId := do
  match (← get).anchors.lookup name with
  | some id => return id
  | none => fail .unknownAlias

def empty : Compose NodeId :=
  add none .null (.scalar "")

abbrev Handles := List (String × String)

structure Properties where
  anchor : Option String
  tag : Option String

def fullTag (handles : Handles) (handle : Option String) (suffix : String) : Except Fault String :=
  match handle with
  | none => .ok suffix
  | some h => match handles.lookup h with
    | some replacement => .ok (replacement ++ suffix)
    | none => .error (.malformed .unknownHandle)

def properties (handles : Handles) : Compose Properties := do
  match ← peek with
  | .anchor name =>
      advance
      match ← peek with
      | .tag handle suffix =>
          advance
          return ⟨some name, some (← fullTag handles handle suffix)⟩
      | _ => return ⟨some name, none⟩
  | .tag handle suffix =>
      advance
      match ← peek with
      | .anchor name =>
          advance
          return ⟨some name, some (← fullTag handles handle suffix)⟩
      | _ => return ⟨none, some (← fullTag handles handle suffix)⟩
  | _ => return ⟨none, none⟩

/-- The tag of a scalar: its own, or what it looks like. A quoted text without a tag is a text. -/
def scalarTag (tag : Option String) (text : String) (plain : Bool) : Tag :=
  match tag with
  | some "!" => .ofLook text
  | some name => .ofName name
  | none => if plain then .ofLook text else .text

def collectionTag (tag : Option String) (default : Tag) : Tag :=
  match tag with
  | none | some "!" => default
  | some name => .ofName name

/-- A sequence, whose items are read after it has its number. -/
def sequence (p : Properties) (items : Compose (List NodeId)) : Compose NodeId := do
  let id ← add p.anchor (collectionTag p.tag .sequence) (.sequence [])
  fill id (.sequence (← items))
  return id

def mapping (p : Properties) (entries : Compose (List (NodeId × NodeId))) : Compose NodeId := do
  let id ← add p.anchor (collectionTag p.tag .mapping) (.mapping [])
  fill id (.mapping (← entries))
  return id

def bare (p : Properties) : Compose NodeId := do
  if p.anchor.isNone && p.tag.isNone then fail .missingContent
  add p.anchor (scalarTag p.tag "" true) (.scalar "")

/-- The tokens before which a node in a block may be left out: as the item of an indented sequence, of a
sequence that is not indented, and as a part of a mapping. -/
def blockItemEnds : List Token := [.blockEntry, .blockEnd]
def unindentedItemEnds : List Token := [.blockEntry, .key, .value, .blockEnd]
def blockPartEnds : List Token := [.key, .value, .blockEnd]

def comma : Compose Unit := do
  match ← peek with
  | .flowEntry => advance
  | _ => fail .unfinishedCollection

mutual

/-- A node. In a block it may be a block collection; as part of a mapping it may be a sequence that is not
indented. -/
def node (handles : Handles) (inBlock unindented : Bool) : Nat → Compose NodeId
  | 0 => fail .endless
  | fuel + 1 => do
      if let .alias name ← peek then
        advance
        return ← aliased name
      let p ← properties handles
      match ← peek with
      | .scalar text plain =>
          advance
          add p.anchor (scalarTag p.tag text plain) (.scalar text)
      | .flowSequenceStart => sequence p (advance *> flowItems handles true fuel)
      | .flowMappingStart => mapping p (advance *> flowEntries handles true fuel)
      | .blockEntry => if unindented then sequence p (unindentedItems handles fuel) else bare p
      | .blockSequenceStart => if inBlock then sequence p (advance *> blockItems handles fuel) else bare p
      | .blockMappingStart => if inBlock then mapping p (advance *> blockEntries handles fuel) else bare p
      | _ => bare p

def nodeBefore (handles : Handles) (ends : List Token) (inBlock unindented : Bool) : Nat → Compose NodeId
  | 0 => fail .endless
  | fuel + 1 => do
      if ends.contains (← peek) then empty else node handles inBlock unindented fuel

def blockItems (handles : Handles) : Nat → Compose (List NodeId)
  | 0 => fail .endless
  | fuel + 1 => do
      match ← peek with
      | .blockEntry =>
          advance
          let item ← nodeBefore handles blockItemEnds true false fuel
          return item :: (← blockItems handles fuel)
      | .blockEnd =>
          advance
          return []
      | _ => fail .unfinishedCollection

def unindentedItems (handles : Handles) : Nat → Compose (List NodeId)
  | 0 => fail .endless
  | fuel + 1 => do
      match ← peek with
      | .blockEntry =>
          advance
          let item ← nodeBefore handles unindentedItemEnds true false fuel
          return item :: (← unindentedItems handles fuel)
      | _ => return []

def blockEntries (handles : Handles) : Nat → Compose (List (NodeId × NodeId))
  | 0 => fail .endless
  | fuel + 1 => do
      match ← peek with
      | .key =>
          advance
          let key ← nodeBefore handles blockPartEnds true true fuel
          let value ← valuePart handles blockPartEnds true fuel
          return (key, value) :: (← blockEntries handles fuel)
      | .blockEnd =>
          advance
          return []
      | _ => fail .unfinishedCollection

def valuePart (handles : Handles) (ends : List Token) (inBlock : Bool) : Nat → Compose NodeId
  | 0 => fail .endless
  | fuel + 1 => do
      match ← peek with
      | .value =>
          advance
          nodeBefore handles ends inBlock inBlock fuel
      | _ => empty

/-- The items of a sequence in brackets. An item with a colon is a mapping of one entry. -/
def flowItems (handles : Handles) (first : Bool) : Nat → Compose (List NodeId)
  | 0 => fail .endless
  | fuel + 1 => do
      if (← peek) = .flowSequenceEnd then
        advance
        return []
      if !first then comma
      match ← peek with
      | .key =>
          let item ← mapping ⟨none, none⟩ (advance *> flowEntry handles .flowSequenceEnd fuel)
          return item :: (← flowItems handles false fuel)
      | .flowSequenceEnd =>
          advance
          return []
      | _ =>
          let item ← node handles false false fuel
          return item :: (← flowItems handles false fuel)

def flowEntry (handles : Handles) (last : Token) : Nat → Compose (List (NodeId × NodeId))
  | 0 => fail .endless
  | fuel + 1 => do
      let key ← nodeBefore handles [.value, .flowEntry, last] false false fuel
      let value ← valuePart handles [.flowEntry, last] false fuel
      return [(key, value)]

def flowEntries (handles : Handles) (first : Bool) : Nat → Compose (List (NodeId × NodeId))
  | 0 => fail .endless
  | fuel + 1 => do
      if (← peek) = .flowMappingEnd then
        advance
        return []
      if !first then comma
      match ← peek with
      | .key =>
          advance
          let entry ← flowEntry handles .flowMappingEnd fuel
          return entry ++ (← flowEntries handles false fuel)
      | .flowMappingEnd =>
          advance
          return []
      | _ =>
          let key ← node handles false false fuel
          let _ ← peek
          let value ← empty
          return (key, value) :: (← flowEntries handles false fuel)

end

def standardHandles : Handles :=
  [("!", "!"), ("!!", Tag.standardSpace)]

def directives (version : Bool) (handles : Handles) : Nat → Compose Handles
  | 0 => fail .endless
  | fuel + 1 => do
      match ← peek with
      | .versionDirective major =>
          advance
          if version || major ≠ 1 then fail .badDirective
          directives true handles fuel
      | .tagDirective handle replacement =>
          advance
          if (handles.lookup handle).isSome then fail .badDirective
          directives version ((handle, replacement) :: handles) fuel
      | .otherDirective =>
          advance
          directives version handles fuel
      | _ => return handles ++ standardHandles

def prologue (fuel : Nat) : Compose Handles := do
  let handles ← directives false [] fuel
  match ← peek with
  | .documentStart =>
      advance
      return handles
  | _ => fail .missingDocumentStart

def documentEnds : Nat → Compose Unit
  | 0 => fail .endless
  | fuel + 1 => do
      if (← peek) = .documentEnd then
        advance
        documentEnds fuel

/-- Whether a token can only stand outside of a document's content. -/
def isOutside : Token → Bool
  | .versionDirective _ | .tagDirective .. | .otherDirective | .documentStart | .streamEnd => true
  | _ => false

def content (handles : Handles) (fuel : Nat) : Compose NodeId := do
  let t ← peek
  if isOutside t || t = .documentEnd then empty else node handles true false fuel

def document (fuel : Nat) : Compose (Option NodeId) := do
  let t ← peek
  if t = .streamEnd then return none
  let root ← if isOutside t then prologue fuel >>= fun handles => content handles fuel
    else node standardHandles true false fuel
  documentEnds fuel
  if (← peek) = .streamEnd then return some root
  let _ ← prologue fuel
  fail .severalDocuments

end Compose

def Graph.ofText? (s : String) : Except Fault (Option Graph) := do
  let tokens := Tokens.ofText s.toList
  let (root?, c) ← (Compose.document (4 * tokens.ready.length + 8)).run ⟨tokens, #[], []⟩
  return root?.map fun root => ⟨c.nodes, root⟩

end TopicBindings.Markup
