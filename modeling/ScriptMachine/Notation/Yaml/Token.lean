import ScriptMachine.Notation.Yaml.BlockText
import ScriptMachine.Notation.Yaml.Plain
import ScriptMachine.Notation.Yaml.Quoted
import ScriptMachine.Notation.Yaml.Tag

/-!
# Tokens

The marks, scalars and properties of a YAML text. Indentation becomes tokens of its own,
which open and close block collections. A key needs no mark before it: it is recognised by
the colon after it, and its token is put in front of it then.
-/

namespace ScriptMachine.Notation.Yaml

inductive Token where
  | directive (d : Directive)
  | documentStart
  | documentEnd
  | blockSequenceStart
  | blockMappingStart
  | blockEnd
  | flowSequenceStart
  | flowSequenceEnd
  | flowMappingStart
  | flowMappingEnd
  | entry
  | separator
  | key
  | value
  | anchor (name : String)
  | alias (name : String)
  | tag (t : Tag)
  | scalar (text : String) (plain : Bool)
deriving DecidableEq

structure KeyStart where
  /-- The number of tokens before. -/
  token : Nat
  place : Place
  /-- Whether nothing but a key can stand there. -/
  required : Bool

structure Layout where
  tokens : Array Token := #[]
  /-- The columns of the open block collections, the innermost first. -/
  indents : List Nat := []
  keyAllowed : Bool := true
  keyStart : Option KeyStart := none
  /-- For each open bracket what may have been a key around it. -/
  outer : List (Option KeyStart) := []

namespace KeyStart

/-- A key without a mark ends on its line and within 1024 characters. -/
def isStale (now : Place) (k : KeyStart) : Bool :=
  k.place.line < now.line || k.place.index + 1024 < now.index

def refresh? (now : Place) (k : Option KeyStart) : Option (Option KeyStart) :=
  match k with
  | none => some none
  | some k => if ! k.isStale now then some (some k) else if k.required then none else some none

end KeyStart

namespace Layout

def inFlow (l : Layout) : Bool := ! l.outer.isEmpty

def inner (l : Layout) : Nat := l.indents.head?.elim 0 (· + 1)

def push (l : Layout) (t : Token) : Layout := { l with tokens := l.tokens.push t }

def dropKey? (l : Layout) : Option Layout :=
  if l.keyStart.any (·.required) then none else some { l with keyStart := none }

def startKey? (l : Layout) (p : Place) : Option Layout :=
  if ! l.keyAllowed then some l
  else do
    let required := ! l.inFlow && l.indents.head? = some p.column
    return { ← l.dropKey? with keyStart := some ⟨l.tokens.size, p, required⟩ }

def refresh? (l : Layout) (now : Place) : Option Layout := do
  return { l with
    keyStart := ← KeyStart.refresh? now l.keyStart
    outer := ← l.outer.mapM (KeyStart.refresh? now) }

/-- Opens a block collection whose parts stand at a column, unless one is open there. Its
token becomes the one of the given number. -/
def indentTo (l : Layout) (column number : Nat) (t : Token) : Layout :=
  if l.inFlow || column < l.inner then l
  else { l with
    indents := column :: l.indents
    tokens := l.tokens.insertIdxIfInBounds number t }

def close (l : Layout) (goesOn : Nat → Bool) : Layout :=
  let closed := l.indents.takeWhile (! goesOn ·)
  { l with
    indents := l.indents.drop closed.length
    tokens := l.tokens ++ closed.map fun _ => Token.blockEnd }

def dedentTo (l : Layout) (column : Nat) : Layout :=
  if l.inFlow then l else l.close (· ≤ column)

def closeAll (l : Layout) : Layout := if l.inFlow then l else l.close fun _ => false

def openFlow? (l : Layout) (p : Place) (t : Token) : Option Layout := do
  let l ← l.startKey? p
  return { l.push t with keyAllowed := true, keyStart := none, outer := l.keyStart :: l.outer }

def closeFlow? (l : Layout) (t : Token) : Option Layout := do
  let l := { (← l.dropKey?).push t with keyAllowed := false }
  return match l.outer with
    | k :: outer => { l with keyStart := k, outer }
    | [] => l

def startPart? (l : Layout) (p : Place) (start : Token) : Option Layout :=
  if l.inFlow then some l
  else if ! l.keyAllowed then none
  else some (l.indentTo p.column l.tokens.size start)

def entry? (l : Layout) (p : Place) : Option Layout := do
  let l ← (← l.startPart? p .blockSequenceStart).dropKey?
  return { l.push .entry with keyAllowed := true }

def key? (l : Layout) (p : Place) : Option Layout := do
  let l ← (← l.startPart? p .blockMappingStart).dropKey?
  return { l.push .key with keyAllowed := ! l.inFlow }

def value? (l : Layout) (p : Place) : Option Layout :=
  match l.keyStart with
  | some k =>
    let l := { l with
      tokens := l.tokens.insertIdxIfInBounds k.token .key
      keyStart := none
      keyAllowed := false }
    some ((l.indentTo k.place.column k.token .blockMappingStart).push .value)
  | none => do
    let l ← l.startPart? p .blockMappingStart
    return { l.push .value with keyAllowed := ! l.inFlow }

def atMargin? (l : Layout) (t : Token) : Option Layout := do
  return { (← l.closeAll.dropKey?).push t with keyAllowed := false }

def word? (l : Layout) (p : Place) (t : Token) : Option Layout := do
  return { (← l.startKey? p).push t with keyAllowed := false }

/-- Passes over spacing and comments. A new line allows keys in block form; where keys are
allowed there, tabs do not pass. -/
def skip (flow : Bool) : Bool → Bool → List Place → Bool × List Place
  | _, allowed, [] => (allowed, [])
  | comment, allowed, p :: rest =>
    if isBreak p.char then skip flow false (allowed || ! flow) rest
    else if comment || p.char = ' ' || (p.char = '\t' && (flow || ! allowed)) ||
        (p.char = byteOrderMark && p.column = 0) then
      skip flow comment allowed rest
    else if p.char = '#' then skip flow true allowed rest
    else (allowed, p :: rest)

def anchorName? (ps : List Place) : Option (String × List Place) :=
  let name := ps.takeWhile (isWordChar ·.char)
  let rest := ps.drop name.length
  if name.isEmpty then none
  else if atSpacing rest || rest.head?.any fun p => "?:,]\x7d%@`".toList.contains p.char then
    some (textOf name, rest)
  else none

def startsPlain (flow : Bool) (p : Place) (rest : List Place) : Bool :=
  let follows (blank : Char → Bool) := rest.head?.any fun q => ! blank q.char
  ! (isSpacing p.char || "-?:,[]\x7b\x7d#&*!|>'\"%@`".toList.contains p.char) ||
    (p.char = '-' && follows isBlank) ||
    (! flow && (p.char = '?' || p.char = ':') && follows isSpacing)

def token? (l : Layout) (p : Place) (rest : List Place) : Option (Layout × List Place) := do
  let here := p :: rest
  let flow := l.inFlow
  let mark := atSpacing rest
  if p.column = 0 && p.char = '%' then
    let (d, rest) ← Directive.read? rest
    return (← l.atMargin? (.directive d), rest)
  if atMarks '-' here then return (← l.atMargin? .documentStart, here.drop 3)
  if atMarks '.' here then return (← l.atMargin? .documentEnd, here.drop 3)
  match p.char with
  | '[' => return (← l.openFlow? p .flowSequenceStart, rest)
  | '\x7b' => return (← l.openFlow? p .flowMappingStart, rest)
  | ']' => return (← l.closeFlow? .flowSequenceEnd, rest)
  | '\x7d' => return (← l.closeFlow? .flowMappingEnd, rest)
  | ',' => return ({ (← l.dropKey?).push .separator with keyAllowed := true }, rest)
  | '*' =>
    let (name, rest) ← anchorName? rest
    return (← l.word? p (.alias name), rest)
  | '&' =>
    let (name, rest) ← anchorName? rest
    return (← l.word? p (.anchor name), rest)
  | '!' =>
    let (tag, rest) ← Tag.read? flow here
    return (← l.word? p (.tag tag), rest)
  | '\'' =>
    let (text, rest) ← quotedText? .single .text "" {} rest
    return (← l.word? p (.scalar text false), rest)
  | '"' =>
    let (text, rest) ← quotedText? .double .text "" {} rest
    return (← l.word? p (.scalar text false), rest)
  | c =>
    if c = '-' && mark then return (← l.entry? p, rest)
    if c = '?' && (flow || mark) then return (← l.key? p, rest)
    if c = ':' && (flow || mark) then return (← l.value? p, rest)
    if (c = '|' || c = '>') && ! flow then
      let (text, rest) ← BlockText.read? (c = '>') l.indents.head? rest
      return ({ (← l.dropKey?).push (.scalar text false) with keyAllowed := true }, rest)
    if ! startsPlain flow p rest then none
    let found ← plainText? flow l.inner "" {} here
    let l ← l.word? p (.scalar found.text true)
    return ({ l with keyAllowed := found.lineEnded }, found.rest)

def run? : Nat → Layout → List Place → Option Layout
  | 0, _, _ => none
  | fuel + 1, l, ps =>
    let (keyAllowed, ps) := skip l.inFlow false l.keyAllowed ps
    let l := { l with keyAllowed }
    match ps with
    | [] => l.closeAll.dropKey?
    | p :: rest => do
      let l ← l.refresh? p
      let (l, rest) ← (l.dedentTo p.column).token? p rest
      run? fuel l rest

end Layout

def Token.ofText? (text : String) : Option (List Token) := do
  let places ← Place.ofText? text
  return (← Layout.run? (places.length + 1) {} places).tokens.toList

end ScriptMachine.Notation.Yaml
