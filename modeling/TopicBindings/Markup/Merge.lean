import TopicBindings.Markup.Node

/-!
Merging. An entry with a merge key stands for the entries of another mapping, or of several; they come in
front of the mapping's own entries, which therefore override them. A key for the default value counts as text
once its mapping is merged.
-/

namespace TopicBindings.Markup

abbrev NodeEntries := List (NodeId × NodeId)

namespace Nodes

def entries? (nodes : Nodes) (id : NodeId) : Option NodeEntries :=
  match (nodes.node id).content with
  | .mapping entries => some entries
  | _ => none

def setEntries (nodes : Nodes) (id : NodeId) (entries : NodeEntries) : Nodes :=
  nodes.modify id fun n => { n with content := .mapping entries }

/-- Takes the first entry with a merge key out of others, and gives what is merged by it. -/
def takeMerge? (nodes : Nodes) : NodeEntries → Option (NodeId × NodeEntries)
  | [] => none
  | (key, value) :: rest =>
      if (nodes.node key).tag = .merge then some (value, rest)
      else (takeMerge? nodes rest).map fun (merged, others) => (merged, (key, value) :: others)

def spellKey (nodes : Nodes) (key : NodeId) : Nodes :=
  if (nodes.node key).tag = .value then nodes.modify key fun n => { n with tag := .text } else nodes

/-- A number that no chain of merges in a document reaches: every merge takes an entry away. -/
def mergeBound (nodes : Nodes) : Nat :=
  nodes.foldl (fun n node => match node.content with
    | .mapping entries => n + 2 * entries.length
    | _ => n) 2

end Nodes

abbrev Merge := StateT Nodes (Except Fault)

namespace Merge

def entriesOf (id : NodeId) : Merge NodeEntries := do
  match (← get).entries? id with
  | some entries => return entries
  | none => throw (.malformed .badMerge)

mutual

/-- Replaces the merging entries of a mapping by what they stand for, and gives all entries. -/
def merge : Nat → NodeId → Merge NodeEntries
  | 0, _ => throw (.malformed .endless)
  | fuel + 1, id => do
      let _ ← entriesOf id
      let merged ← mergedBy fuel id
      let own ← entriesOf id
      modify fun nodes => (own.foldl (fun nodes entry => nodes.spellKey entry.1) nodes).setEntries id (merged ++ own)
      return merged ++ own

/-- What the merging entries of a mapping stand for, in their order. Of several mappings that one entry
merges the first counts most. -/
def mergedBy : Nat → NodeId → Merge NodeEntries
  | 0, _ => throw (.malformed .endless)
  | fuel + 1, id => do
      let nodes ← get
      match nodes.takeMerge? (← entriesOf id) with
      | none => return []
      | some (source, others) =>
          set (nodes.setEntries id others)
          let first ← match (nodes.node source).content with
            | .mapping _ => merge fuel source
            | .sequence items => do
                let found ← items.mapM (merge fuel)
                pure found.reverse.flatten
            | .scalar _ => throw (.malformed .badMerge)
          return first ++ (← mergedBy fuel id)

end

end Merge

end TopicBindings.Markup
