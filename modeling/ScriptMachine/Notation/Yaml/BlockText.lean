import ScriptMachine.Notation.Yaml.Place

/-!
# Block scalars

A header with the rule for the last breaks and perhaps the depth of indentation, and then
the lines that are indented so. Literal scalars keep their breaks. Folded ones join two
lines by a space unless one of them starts with a blank.
-/

namespace ScriptMachine.Notation.Yaml

inductive Chomping where
  | clip
  | strip
  | keep
deriving DecidableEq

structure BlockHeader where
  chomping : Chomping := .clip
  depth : Option Nat := none

namespace BlockHeader

def chomping? (c : Char) : Option Chomping :=
  if c = '-' then some .strip else if c = '+' then some .keep else none

def depth? (c : Char) : Option Nat :=
  if c.isDigit && c ≠ '0' then some (c.toNat - '0'.toNat) else none

def read? (ps : List Place) : Option (BlockHeader × List Place) :=
  let parts := (ps.take 2).map (·.char)
  let (header, length) : BlockHeader × Nat := match parts.map chomping?, parts.map depth? with
    | [some c, _], [_, some d] | [_, some c], [some d, _] => (⟨c, some d⟩, 2)
    | some c :: _, _ => (⟨c, none⟩, 1)
    | _, some d :: _ => (⟨.clip, some d⟩, 1)
    | _, _ => ({}, 0)
  (lineEnd? (ps.drop length)).map (header, ·)

end BlockHeader

structure BlockText where
  text : String := ""
  /-- The break of the last line. -/
  last : String := ""
  /-- The breaks of the empty lines after it. -/
  empty : String := ""
  /-- Whether the last line starts with a blank. -/
  blank : Bool := false

namespace BlockText

def start (folded : Bool) (b : BlockText) (c : Char) : BlockText :=
  let join :=
    if folded && b.last = "\n" && ! b.blank && ! isBlank c then
      if b.empty = "" then " " else b.empty
    else b.last ++ b.empty
  { text := (b.text ++ join).push c, blank := isBlank c }

def finish (chomping : Chomping) (b : BlockText) : String :=
  match chomping with
  | .strip => b.text
  | .clip => b.text ++ b.last
  | .keep => b.text ++ b.last ++ b.empty

/-- The column of the first line's text: the deepest place that the empty lines before it
and its own indentation reach. A tab cannot indent. -/
def indentation? : Nat → List Place → Option Nat
  | deepest, [] => some deepest
  | deepest, p :: rest =>
    if p.char = ' ' then indentation? (max deepest (p.column + 1)) rest
    else if p.char = '\t' then none
    else if isBreak p.char then indentation? deepest rest
    else some deepest

def lines? (folded : Bool) (indent : Nat) (within : Bool) :
    BlockText → List Place → Option (BlockText × List Place)
  | b, [] => some (b, [])
  | b, p :: rest =>
    if within then
      if isBreak p.char then lines? folded indent false { b with last := p.char.toString } rest
      else lines? folded indent true { b with text := b.text.push p.char } rest
    else if isBreak p.char then
      lines? folded indent false { b with empty := b.empty.push p.char } rest
    else if p.column < indent then
      if p.char = ' ' then lines? folded indent false b rest
      else if p.char = '\t' then none
      else some (b, p :: rest)
    else lines? folded indent true (b.start folded p.char) rest

def read? (folded : Bool) (outer : Option Nat) (ps : List Place) :
    Option (String × List Place) := do
  let (header, ps) ← BlockHeader.read? ps
  let indent ← match header.depth with
    | some depth => some (outer.getD 0 + depth)
    | none => (indentation? 0 ps).map fun deepest => max (max deepest 1) (outer.elim 0 (· + 1))
  let (b, rest) ← lines? folded indent false {} ps
  return (b.finish header.chomping, rest)

end BlockText

end ScriptMachine.Notation.Yaml
