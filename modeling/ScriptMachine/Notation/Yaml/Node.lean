import ScriptMachine.Notation.Yaml.Token

/-!
# Nodes

A document as a tree of scalars, sequences, mappings and aliases, read from its tokens.
What is left out between two marks is an empty plain scalar.
-/

namespace ScriptMachine.Notation.Yaml

inductive Node where
  | alias (group : Nat)
  | scalar (tag : Option String) (text : String) (plain : Bool)
  | sequence (tag : Option String) (items : List Node)
  | mapping (tag : Option String) (entries : List (Node × Node))

namespace Node

def empty : Node := .scalar none "" true

mutual

def weight : Node → Nat
  | .alias _ | .scalar .. => 1
  | .sequence _ items => 2 + weightItems items
  | .mapping _ entries => 2 + weightEntries entries

def weightItems : List Node → Nat
  | [] => 0
  | item :: rest => item.weight + weightItems rest

def weightEntries : List (Node × Node) → Nat
  | [] => 0
  | (key, value) :: rest => key.weight + value.weight + weightEntries rest

end

end Node

structure Anchors where
  /-- The group of each name. -/
  groups : List (String × Nat) := []
  /-- The groups of the nodes, in the order in which these started. -/
  started : Array Nat := #[]
  /-- The nodes that are complete, under their place in that order. -/
  complete : List (Nat × Node) := []

namespace Anchors

def start (a : Anchors) (name : String) : Nat × Anchors :=
  let group := a.groups.length
  (a.started.size, { a with
    groups := (name, group) :: a.groups.filter (·.1 ≠ name)
    started := a.started.push group })

def finish (a : Anchors) (place : Nat) (node : Node) : Anchors :=
  { a with complete := (place, node) :: a.complete }

def node? (a : Anchors) (group : Nat) : Option Node := do
  let place ← (List.range a.started.size).reverse.find? fun i => a.started[i]? = some group
  a.complete.lookup place

end Anchors

structure Pending where
  tokens : List Token
  handles : List (String × String) := []
  anchors : Anchors := {}

abbrev Reading := StateT Pending Option

namespace Reading

def peek : Reading (Option Token) := return (← get).tokens.head?

def drop : Reading Unit := modify fun s => { s with tokens := s.tokens.drop 1 }

def accept (t : Token) : Reading Bool := do
  if (← peek) = some t then
    drop
    return true
  return false

def expect (t : Token) : Reading Unit := do
  if ! (← accept t) then failure

def comesNext (ts : List Token) : Reading Bool := return (← peek).any ts.contains

def properties : Reading (Option String × Option Tag) := do
  let anchor? : Reading (Option String) := do
    match ← peek with
    | some (.anchor name) => drop; return some name
    | _ => return none
  let tag? : Reading (Option Tag) := do
    match ← peek with
    | some (.tag t) => drop; return some t
    | _ => return none
  match ← anchor? with
  | some name => return (some name, ← tag?)
  | none => match ← tag? with
    | some t => return (← anchor?, some t)
    | none => return (none, none)

def tagName (t : Tag) : Reading String := do
  match t.name? (← get).handles with
  | some name => return name
  | none => failure

def start (name : String) : Reading Nat :=
  modifyGet fun s =>
    let (place, anchors) := s.anchors.start name
    (place, { s with anchors })

def finish (place : Nat) (node : Node) : Reading Unit :=
  modify fun s => { s with anchors := s.anchors.finish place node }

def leaf (anchor name : Option String) : Reading Node :=
  if anchor.isSome || name.isSome then return .scalar name "" true else failure

def group (name : String) : Reading Nat := do
  match (← get).anchors.groups.lookup name with
  | some group => return group
  | none => failure

mutual

/-- A node. Block collections stand only where `block` holds, and a sequence of the same
indentation as the mapping around it where `flush` holds. -/
def node (block flush : Bool) : Nat → Reading Node
  | 0 => failure
  | fuel + 1 => do
    if let some (.alias name) ← peek then
      drop
      return .alias (← group name)
    let (anchor, tag) ← properties
    let name ← tag.mapM tagName
    let place ← anchor.mapM start
    let read ← match ← peek with
      | some (.scalar text plain) =>
        drop
        pure (.scalar (name.filter (· ≠ "!")) text plain)
      | some .flowSequenceStart => drop; .sequence name <$> flowItems true fuel
      | some .flowMappingStart => drop; .mapping name <$> flowEntries true fuel
      | some .blockSequenceStart =>
        if block then drop; .sequence name <$> blockItems fuel
        else leaf anchor name
      | some .blockMappingStart =>
        if block then drop; .mapping name <$> blockEntries fuel
        else leaf anchor name
      | some .entry =>
        if flush then .sequence name <$> flushItems fuel
        else leaf anchor name
      | _ => leaf anchor name
    if let some place := place then finish place read
    return read

def nodeBefore (ends : List Token) (block flush : Bool) : Nat → Reading Node
  | 0 => failure
  | fuel + 1 => do
    if ← comesNext ends then return .empty
    node block flush fuel

def blockItems : Nat → Reading (List Node)
  | 0 => failure
  | fuel + 1 => do
    if ← accept .blockEnd then return []
    expect .entry
    let item ← nodeBefore [.entry, .blockEnd] true false fuel
    return item :: (← blockItems fuel)

def flushItems : Nat → Reading (List Node)
  | 0 => failure
  | fuel + 1 => do
    if ! (← accept .entry) then return []
    let item ← nodeBefore [.entry, .key, .value, .blockEnd] true false fuel
    return item :: (← flushItems fuel)

def blockEntries : Nat → Reading (List (Node × Node))
  | 0 => failure
  | fuel + 1 => do
    if ← accept .blockEnd then return []
    expect .key
    let ends := [.key, .value, .blockEnd]
    let key ← nodeBefore ends true true fuel
    let value ← if ← accept .value then nodeBefore ends true true fuel else pure .empty
    return (key, value) :: (← blockEntries fuel)

/-- The items between brackets. An item with a colon is a mapping of one entry. Where its
key is left out, the token after its mark is passed over. -/
def flowItems (first : Bool) : Nat → Reading (List Node)
  | 0 => failure
  | fuel + 1 => do
    if ← accept .flowSequenceEnd then return []
    if ! first then
      expect .separator
      if ← accept .flowSequenceEnd then return []
    let item ← if ← accept .key then
      let ends := [.separator, .flowSequenceEnd]
      let key ← if ← comesNext (.value :: ends) then drop; pure .empty
        else node false false fuel
      let value ← if ← accept .value then nodeBefore ends false false fuel else pure .empty
      pure (.mapping none [(key, value)])
    else node false false fuel
    return item :: (← flowItems false fuel)

def flowEntries (first : Bool) : Nat → Reading (List (Node × Node))
  | 0 => failure
  | fuel + 1 => do
    if ← accept .flowMappingEnd then return []
    if ! first then
      expect .separator
      if ← accept .flowMappingEnd then return []
    let ends := [.separator, .flowMappingEnd]
    let (key, value) ← if ← accept .key then
      let key ← nodeBefore (.value :: ends) false false fuel
      let value ← if ← accept .value then nodeBefore ends false false fuel else pure .empty
      pure (key, value)
    else pure (← node false false fuel, Node.empty)
    return (key, value) :: (← flowEntries false fuel)

end

end Reading

structure Document where
  root : Option Node := none
  anchors : Anchors := {}

namespace Document

def directives : List Token → List Directive
  | .directive d :: rest => d :: directives rest
  | _ => []

def ofContent? (handles : List (String × String)) (read : Nat → Reading Node)
    (tokens : List Token) : Option Document := do
  let (root, s) ← (read (4 * tokens.length + 4)).run { tokens, handles }
  if s.tokens.all (· = .documentEnd) then some ⟨some root, s.anchors⟩ else none

def ofTokens? (tokens : List Token) : Option Document := do
  let ds := directives tokens
  match tokens.drop ds.length with
  | [] => if ds.isEmpty then some {} else none
  | .documentStart :: rest =>
    let handles ← Directive.handles? false [] ds
    match rest with
    | [] | .directive _ :: _ | .documentStart :: _ | .documentEnd :: _ =>
      ofContent? handles (fun _ => return .empty) rest
    | _ => ofContent? handles (Reading.node true false) rest
  | rest => if ds.isEmpty then ofContent? [] (Reading.node true false) rest else none

def ofText? (text : String) : Option Document := do ofTokens? (← Token.ofText? text)

end Document

end ScriptMachine.Notation.Yaml
