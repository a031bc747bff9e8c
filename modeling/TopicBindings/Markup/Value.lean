import TopicBindings.Entries
import TopicBindings.Markup.Binary
import TopicBindings.Markup.Merge
import TopicBindings.Markup.Scalar
import TopicBindings.Naming.Style

/-!
The values of documents. A node is read by its tag. The members of a collection are read once all that was
found before it is read, so a document is read level by level, and the first fault in this order counts. A
collection may hold itself; its value then has the number of its own node in it.
-/

namespace TopicBindings.Markup

/-- A value. The members of a collection are the values of nodes, the keys of a mapping are scalars. -/
inductive Value where
  | scalar (value : Scalar)
  | list (items : List NodeId)
  | pairs (items : List (NodeId × NodeId))
  | mapping (entries : Entries Scalar NodeId)
  | set (members : List Scalar)

namespace Nodes

/-- The text of a scalar, or of the value that a mapping has under the key for its default value. -/
def scalarText (nodes : Nodes) : Nat → NodeId → Except Fault String
  | 0, _ => throw (.unreadable .endlessText)
  | fuel + 1, id =>
      match (nodes.node id).content with
      | .scalar text => return text
      | .mapping entries => match entries.find? fun (key, _) => (nodes.node key).tag = .value with
        | some (_, value) => scalarText nodes fuel value
        | none => throw (.malformed .wrongVariety)
      | .sequence _ => throw (.malformed .wrongVariety)

end Nodes

namespace Scalar

def timestamp (text : String) : Except ValueFault Scalar :=
  match Time.read? false text.toList with
  | none => .error .noTimestamp
  | some r => match r.clock with
    | none => (Time.checkDate r.date).map fun _ => .date r.date
    | some (hour, minute, second) => (Time.momentOf r hour minute second).map .moment

def boolean (text : String) : Except ValueFault Scalar :=
  let word := Naming.toLower text
  match Tag.booleans.lookup word with
  | some b => .ok (.bool b)
  | none => .error (.noBoolean word)

/-- The float that a text stands for. The result of reading is told apart from others if it is no number. -/
def floating (id : NodeId) (text : String) : Except ValueFault Scalar := do
  let spaced := Naming.lowerText (Number.withoutSpacing text.toList)
  let x ← Number.float spaced
  return if x == x then .float x else .undefined (if Number.isUndefined spaced then none else some id)

def ofNode (nodes : Nodes) (id : NodeId) : Except Fault Scalar := do
  let text := nodes.scalarText (nodes.size + 1) id
  match (nodes.node id).tag with
  | .null => return (← text.map fun _ => .null)
  | .bool => (boolean (← text)).mapError .unreadable
  | .int => ((Number.integer (← text)).map .int).mapError .unreadable
  | .float => (floating id (← text)).mapError .unreadable
  | .timestamp =>
      let text ← text
      if (nodes.entries? id).isSome then throw (.unreadable .timestampOfMapping)
      (timestamp text).mapError .unreadable
  | .binary => match Binary.bytes? (← text).toList with
    | some content => return .bytes content
    | none => throw (.malformed .badBinary)
  | .text => return .text (← text)
  | _ => throw (.malformed .unknownTag)

end Scalar

/-- The state of reading: the nodes, which merging changes, the values found so far, and the collections whose
members are to be read, the last one found in front. -/
structure Reader where
  nodes : Nodes
  values : Array (Option Value)
  unread : List NodeId

abbrev Reading := StateT Reader (Except Fault)

namespace Reading

def fail {α : Type} (rule : Malformation) : Reading α :=
  throw (.malformed rule)

def setValue (id : NodeId) (value : Value) : Reading Unit :=
  modify fun r => { r with values := r.values.setIfInBounds id (some value) }

def value? (id : NodeId) : Reading (Option Value) :=
  return (← get).values[id]?.join

/-- The value that a collection has until its members are read. -/
def unfilled? : Tag → Option Value
  | .sequence => some (.list [])
  | .orderedMapping | .pairs => some (.pairs [])
  | .mapping => some (.mapping [])
  | .set => some (.set [])
  | _ => none

def read (id : NodeId) : Reading Value := do
  if let some found ← value? id then
    return found
  let nodes := (← get).nodes
  match unfilled? (nodes.node id).tag with
  | some value =>
      modify fun r => { r with unread := id :: r.unread }
      setValue id value
      return value
  | none =>
      let value ← Value.scalar <$> (Scalar.ofNode nodes id : Except Fault Scalar)
      setValue id value
      return value

def key (id : NodeId) : Reading Scalar := do
  match ← read id with
  | .scalar value => return value
  | _ => fail .badKey

/-- The entries of a mapping. The last value of a key counts, at the place of the first one. -/
def entries (id : NodeId) : Reading (Entries Scalar NodeId) := do
  let nodes := (← get).nodes
  let (found, merged) ← (Merge.merge nodes.mergeBound id).run nodes
  modify fun r => { r with nodes := merged }
  let mut result : Entries Scalar NodeId := []
  for (k, v) in found do
    let k ← key k
    let _ ← read v
    result := result.set k v
  return result

def pair (id : NodeId) : Reading (NodeId × NodeId) := do
  match (← get).nodes.entries? id with
  | some [(k, v)] =>
      let _ ← read k
      let _ ← read v
      return (k, v)
  | _ => fail .badPairs

def filled (id : NodeId) : Reading Value := do
  let node := (← get).nodes.node id
  match node.tag, node.content with
  | .sequence, .sequence items =>
      items.forM fun item => do let _ ← read item
      return .list items
  | .orderedMapping, .sequence items | .pairs, .sequence items => return .pairs (← items.mapM pair)
  | .mapping, .mapping _ => return .mapping (← entries id)
  | .set, .mapping _ => return .set (← entries id).keys
  | _, _ => fail .wrongVariety

/-- Reads the members of all collections that are found, level by level. -/
def fillAll : Nat → Reading Unit
  | 0 => return
  | fuel + 1 => do
      let found := (← get).unread.reverse
      if found.isEmpty then
        return
      modify fun r => { r with unread := [] }
      found.forM fun id => do setValue id (← filled id)
      fillAll fuel

def readAll (id : NodeId) : Reading Unit := do
  let _ ← read id
  fillAll ((← get).nodes.size + 1)

end Reading

/-- The values of a document, and the number of the outermost one. -/
structure Data where
  values : Array Value
  root : NodeId

namespace Data

def value (d : Data) (id : NodeId) : Value :=
  d.values[id]?.getD (.scalar .null)

def ofText? (s : String) : Except Fault (Option Data) := do
  match ← Graph.ofText? s with
  | none => return none
  | some graph =>
      let unread := Array.replicate graph.nodes.size none
      let (_, r) ← (Reading.readAll graph.root).run ⟨graph.nodes, unread, []⟩
      return some ⟨r.values.map fun v => v.getD (.scalar .null), graph.root⟩

end Data

end TopicBindings.Markup
