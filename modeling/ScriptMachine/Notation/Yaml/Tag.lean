import ScriptMachine.Notation.Json
import ScriptMachine.Notation.Yaml.Place

/-!
# Tags

A tag is written in full between angle brackets, or as a handle and the rest of the name;
directives say what the handles stand for. Escaped octets of a name have to form UTF-8
sequences and are kept one by one.
-/

namespace ScriptMachine.Notation.Yaml

structure Tag where
  handle : String
  suffix : String
deriving DecidableEq

inductive Directive where
  | version (major minor : Nat)
  | tag (handle name : String)
deriving DecidableEq

def textOf (ps : List Place) : String := .ofList (ps.map (·.char))

def isNameChar (listed : Bool) (c : Char) : Bool :=
  isWordChar c || ";/?:@&=+$.%!~*'()".toList.contains c || (listed && ",[]".toList.contains c)

def followers? (octet : Nat) : Option Nat :=
  if octet < 0x80 then some 0
  else if octet < 0xC0 then none
  else if octet < 0xE0 then some 1
  else if octet < 0xF0 then some 2
  else if octet < 0xF8 then some 3
  else none

/-- Reads on after `text`, the part of a name before; `owed` octets of a sequence are still
to come. Commas and brackets belong to a name if `listed`. -/
def name? (listed : Bool) : Nat → String → List Place → Option (String × List Place)
  | owed, text, [] => if owed = 0 then some (text, []) else none
  | owed, text, p :: rest =>
    if p.char = '%' then
      match rest with
      | q :: r :: rest =>
        match Json.hexDigit? q.char, Json.hexDigit? r.char with
        | some high, some low =>
          let octet := 16 * high + low
          let owed := if owed = 0 then followers? octet
            else if 0x80 ≤ octet && octet < 0xC0 then some (owed - 1) else none
          match owed with
          | some owed => name? listed owed (text.push (.ofNat octet)) rest
          | none => none
        | _, _ => none
      | _ => none
    else if owed ≠ 0 then none
    else if isNameChar listed p.char then name? listed 0 (text.push p.char) rest
    else some (text, p :: rest)

def fullName? (listed : Bool) (ps : List Place) : Option (String × List Place) := do
  let (text, rest) ← name? listed 0 "" ps
  if text = "" then none else some (text, rest)

def handle? (ps : List Place) : Option (String × Bool × List Place) :=
  match ps with
  | [] => none
  | p :: rest =>
    if p.char ≠ '!' then none
    else
      let word := textOf (rest.takeWhile (isWordChar ·.char))
      match rest.dropWhile (isWordChar ·.char) with
      | q :: more =>
        if q.char = '!' then some (word, true, more) else some (word, false, q :: more)
      | [] => some (word, false, [])

def handleText (word : String) (closed : Bool) : String :=
  "!" ++ word ++ if closed then "!" else ""

namespace Tag

def verbatim? (ps : List Place) : Option (Tag × List Place) := do
  let (suffix, rest) ← fullName? true ps
  match rest with
  | p :: rest => if p.char = '>' then some (⟨"", suffix⟩, rest) else none
  | [] => none

def short? (ps : List Place) : Option (Tag × List Place) := do
  let (word, closed, rest) ← handle? ps
  if closed then
    let (suffix, rest) ← fullName? false rest
    return (⟨handleText word true, suffix⟩, rest)
  let (suffix, rest) ← name? false 0 word rest
  return (if suffix = "" then ⟨"", "!"⟩ else ⟨"!", suffix⟩, rest)

def read? (flow : Bool) (ps : List Place) : Option (Tag × List Place) := do
  let (tag, rest) ← if (ps.drop 1).head?.any (·.char = '<') then verbatim? (ps.drop 2)
    else short? ps
  if atSpacing rest || (flow && rest.head?.any (·.char = ',')) then some (tag, rest) else none

def knownHandles : List (String × String) := [("!", "!"), ("!!", "tag:yaml.org,2002:")]

def name? (handles : List (String × String)) (t : Tag) : Option String :=
  if t.handle = "" then some t.suffix
  else ((handles ++ knownHandles).lookup t.handle).map (· ++ t.suffix)

end Tag

namespace Directive

def number? (ps : List Place) : Option (Nat × List Place) :=
  let digits := (ps.takeWhile (·.char.isDigit)).map (·.char)
  if digits.isEmpty || 9 < digits.length then none
  else some (Json.digitsValue digits, ps.drop digits.length)

def version? (ps : List Place) : Option (Directive × List Place) := do
  let (major, rest) ← number? ps
  if rest.head?.all (·.char ≠ '.') then none
  let (minor, rest) ← number? (rest.drop 1)
  return (.version major minor, rest)

def tag? (ps : List Place) : Option (Directive × List Place) := do
  let (word, closed, rest) ← handle? ps
  if ! closed && word ≠ "" then none
  if rest.head?.all fun p => ! isBlank p.char then none
  let (name, rest) ← fullName? true (rest.dropWhile (isBlank ·.char))
  if ! atSpacing rest then none
  return (.tag (handleText word closed) name, rest)

def read? (ps : List Place) : Option (Directive × List Place) := do
  let word := textOf (ps.takeWhile (isWordChar ·.char))
  let rest := ps.dropWhile (isWordChar ·.char)
  if ! atSpacing rest then none
  let rest := rest.dropWhile (isBlank ·.char)
  let (directive, rest) ← if word = "YAML" then version? rest
    else if word = "TAG" then tag? rest
    else none
  return (directive, ← lineEnd? rest)

/-- The handles that the directives of a document define: each once, and at most one
version, which is 1.1 or 1.2. -/
def handles? :
    Bool → List (String × String) → List Directive → Option (List (String × String))
  | _, handles, [] => some handles
  | versioned, handles, .version major minor :: rest =>
    if versioned || major ≠ 1 || (minor ≠ 1 && minor ≠ 2) then none
    else handles? true handles rest
  | versioned, handles, .tag handle name :: rest =>
    if (handles.lookup handle).isSome then none
    else handles? versioned ((handle, name) :: handles) rest

end Directive

end ScriptMachine.Notation.Yaml
