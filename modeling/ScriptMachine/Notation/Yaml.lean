import ScriptMachine.Notation.Yaml.Node
import ScriptMachine.Notation.Yaml.Scalar

/-!
# Reading YAML mappings

The entries of the mapping that a YAML document consists of. Keys are scalars at every
depth; whatever is nested is checked and passed over. Collections are nested at most 128
deep, and aliases are followed at most a hundred times for each part of the document.
-/

namespace ScriptMachine.Notation.Yaml

namespace Document

def weight (d : Document) : Nat := d.root.elim 0 Node.weight

/-- The node that a node stands for. The state counts the aliases followed so far. -/
def follow (d : Document) : Node → StateT Nat Option Node
  | .alias group => do
    let followed ← get
    if 100 * d.weight ≤ followed then failure
    set (followed + 1)
    match d.anchors.node? group with
    | some node => return node
    | none => failure
  | node => return node

def key (d : Document) (node : Node) : StateT Nat Option String := do
  match ← d.follow node with
  | .scalar _ text _ => return text
  | _ => failure

def value (d : Document) (depth : Nat) (node : Node) : StateT Nat Option Scalar := do
  match ← d.follow node, depth with
  | .scalar tag text plain, _ =>
    match Scalar.ofTagged? tag text plain with
    | some s => return s
    | none => failure
  | .sequence _ items, depth + 1 =>
    items.forM fun item => do let _ ← d.value depth item
    return .other
  | .mapping _ entries, depth + 1 =>
    entries.forM fun (key, value) => do
      let _ ← d.key key
      let _ ← d.value depth value
    return .other
  | _, _ => failure

def maxDepth : Nat := 128

def entries? (d : Document) : Option (List (String × Scalar)) :=
  match d.root with
  | none | some (.scalar _ "" true) => some []
  | some (.mapping _ entries) =>
    (entries.mapM fun (key, value) =>
      return (← d.key key, ← d.value (maxDepth - 1) value)).run' 0
  | some _ => none

end Document

def mapping? (text : String) : Option (List (String × Scalar)) := do
  (← Document.ofText? text).entries?

end ScriptMachine.Notation.Yaml
