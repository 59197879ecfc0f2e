/-!
# Reading JSON

Of the numbers only natural ones written without a fraction or an exponent are told
apart. Members of an object keep their order, so that repeated names can be seen. A
string may hold half of a surrogate pair; it is well formed, but stands for no text.
-/

namespace ScriptMachine.Notation

inductive Json where
  | null
  | bool (b : Bool)
  | natural (n : Nat)
  | number
  | text (s : Option String)
  | list (items : List Json)
  | object (members : List (Option String × Json))

namespace Json

def isSpace (c : Char) : Bool := c = ' ' || c = '\t' || c = '\n' || c = '\r'

def skip (cs : List Char) : List Char := cs.dropWhile isSpace

def digitsValue (ds : List Char) : Nat :=
  ds.foldl (fun n d => 10 * n + (d.toNat - '0'.toNat)) 0

def marked (marks signs : List Char) (cs : List Char) : Option (Bool × List Char) :=
  match cs with
  | c :: rest =>
    if marks.contains c then
      let rest := match rest with
        | s :: more => if signs.contains s then more else rest
        | [] => []
      let digits := rest.takeWhile Char.isDigit
      if digits.isEmpty then none else some (true, rest.dropWhile Char.isDigit)
    else some (false, cs)
  | [] => some (false, [])

def readNumber (cs : List Char) : Option (Json × List Char) := do
  let (negative, cs) := match cs with
    | '-' :: rest => (true, rest)
    | _ => (false, cs)
  let digits := cs.takeWhile Char.isDigit
  if digits.isEmpty || (digits.head? = some '0' && 1 < digits.length) then none
  let (fraction, cs) ← marked ['.'] [] (cs.dropWhile Char.isDigit)
  let (exponent, cs) ← marked ['e', 'E'] ['+', '-'] cs
  if negative || fraction || exponent then return (.number, cs)
  return (.natural (digitsValue digits), cs)

def hexDigit? (c : Char) : Option Nat :=
  if c.isDigit then some (c.toNat - '0'.toNat)
  else if 'a' ≤ c && c ≤ 'f' then some (c.toNat - 'a'.toNat + 10)
  else if 'A' ≤ c && c ≤ 'F' then some (c.toNat - 'A'.toNat + 10)
  else none

def unit? (cs : List Char) : Option (Nat × List Char) := do
  let digits ← (cs.take 4).mapM hexDigit?
  if digits.length < 4 then none
  return (digits.foldl (16 * · + ·) 0, cs.drop 4)

def shortEscape? : Char → Option Char
  | '"' => some '"'
  | '\\' => some '\\'
  | '/' => some '/'
  | 'b' => some '\x08'
  | 'f' => some '\x0c'
  | 'n' => some '\n'
  | 'r' => some '\r'
  | 't' => some '\t'
  | _ => none

/-- The character of an escape, missing for half of a surrogate pair. Units above the
basic plane come in pairs. -/
def escape (cs : List Char) : Option (Option Char × List Char) := do
  match cs with
  | 'u' :: rest =>
    let (high, rest) ← unit? rest
    if 0xDC00 ≤ high && high < 0xE000 then return (none, rest)
    else if 0xD800 ≤ high && high < 0xDC00 then
      match rest with
      | '\\' :: 'u' :: more =>
        let (low, more) ← unit? more
        if 0xDC00 ≤ low && low < 0xE000 then
          return (some (.ofNat (0x10000 + (high - 0xD800) * 0x400 + (low - 0xDC00))), more)
        else return (none, rest)
      | _ => return (none, rest)
    else return (some (.ofNat high), rest)
  | c :: rest => (shortEscape? c).map fun c => (some c, rest)
  | [] => none

def characters : Nat → List Char → Option (List (Option Char) × List Char)
  | 0, _ => none
  | _, [] => none
  | _, '"' :: rest => some ([], rest)
  | fuel + 1, '\\' :: rest => do
    let (c, rest) ← escape rest
    let (cs, rest) ← characters fuel rest
    return (c :: cs, rest)
  | fuel + 1, c :: rest =>
    if c.toNat < 0x20 then none
    else do
      let (cs, rest) ← characters fuel rest
      return (some c :: cs, rest)

def readString (fuel : Nat) (cs : List Char) : Option (Option String × List Char) :=
  (characters fuel cs).map fun (s, rest) => ((s.mapM fun c => c).map String.ofList, rest)

def readWord (word : String) (j : Json) (cs : List Char) : Option (Json × List Char) :=
  if word.toList.isPrefixOf cs then some (j, cs.drop word.length) else none

def delimiter (between close : Char) (cs : List Char) : Option (Bool × List Char) :=
  match skip cs with
  | c :: rest =>
    if c = between then some (true, rest) else if c = close then some (false, rest) else none
  | [] => none

mutual

/-- A value at the start of the text. The fuel bounds the depth of the recursion. -/
def readValue : Nat → List Char → Option (Json × List Char)
  | 0, _ => none
  | fuel + 1, cs =>
    match skip cs with
    | '"' :: rest => (readString (fuel + 1) rest).map fun (s, rest) => (.text s, rest)
    | '[' :: rest =>
      match skip rest with
      | ']' :: rest => some (.list [], rest)
      | rest => (readItems fuel rest).map fun (xs, rest) => (.list xs, rest)
    | '\x7b' :: rest =>
      match skip rest with
      | '\x7d' :: rest => some (.object [], rest)
      | rest => (readMembers fuel rest).map fun (xs, rest) => (.object xs, rest)
    | 'n' :: rest => readWord "null" .null ('n' :: rest)
    | 't' :: rest => readWord "true" (.bool true) ('t' :: rest)
    | 'f' :: rest => readWord "false" (.bool false) ('f' :: rest)
    | rest => readNumber rest

def readItems : Nat → List Char → Option (List Json × List Char)
  | 0, _ => none
  | fuel + 1, cs => do
    let (item, rest) ← readValue fuel cs
    let (more, rest) ← delimiter ',' ']' rest
    if more then
      let (xs, rest) ← readItems fuel rest
      return (item :: xs, rest)
    return ([item], rest)

def readMembers : Nat → List Char → Option (List (Option String × Json) × List Char)
  | 0, _ => none
  | fuel + 1, cs =>
    match skip cs with
    | '"' :: rest => do
      let (name, rest) ← readString (fuel + 1) rest
      let (_, rest) ← delimiter ':' ':' rest
      let (item, rest) ← readValue fuel rest
      let (more, rest) ← delimiter ',' '\x7d' rest
      if more then
        let (xs, rest) ← readMembers fuel rest
        return ((name, item) :: xs, rest)
      return ([(name, item)], rest)
    | _ => none

end

def parse (s : String) : Option Json := do
  let (j, rest) ← readValue (s.length + 1) s.toList
  if (skip rest).isEmpty then some j else none

/-- The single member of a name: absent, present once, or refused when repeated. Nothing
is found among members of which one has no proper name. -/
def member? (members : List (Option String × Json)) (name : String) : Option (Option Json) :=
  if members.any (·.1.isNone) then none
  else match members.filter (·.1 = some name) with
    | [] => some none
    | [(_, j)] => some (some j)
    | _ => none

def below? (bound : Nat) : Json → Option Nat
  | .natural n => if n < bound then some n else none
  | _ => none

end Json

end ScriptMachine.Notation
