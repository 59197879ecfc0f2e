/-!
# Places in a YAML text

The characters of a text with the line and the column they stand at. The ways to end a
line become one character each: carriage returns and the next-line control are line feeds,
and the line and paragraph separators stay what they are.
-/

namespace ScriptMachine.Notation.Yaml

structure Place where
  char : Char
  /-- The number of characters before. -/
  index : Nat
  line : Nat
  column : Nat

def isBlank (c : Char) : Bool := c = ' ' || c = '\t'

def isBreak (c : Char) : Bool := c = '\n' || c = '\u2028' || c = '\u2029'

def isSpacing (c : Char) : Bool := isBlank c || isBreak c

def isWordChar (c : Char) : Bool := c.isAlphanum || c = '_' || c = '-'

def isAdmissible (c : Char) : Bool :=
  let n := c.toNat
  c = '\t' || c = '\n' || c = '\r' || (0x20 ≤ n && n ≤ 0x7E) || n = 0x85 ||
    (0xA0 ≤ n && n ≤ 0xFFFD) || 0x10000 ≤ n

def byteOrderMark : Char := '\ufeff'

def asBreak (c : Char) : Char := if c = '\r' || c = '\u0085' then '\n' else c

namespace Place

def ofChars (index line column : Nat) : List Char → List Place
  | [] => []
  | '\r' :: '\n' :: rest => ⟨'\n', index, line, column⟩ :: ofChars (index + 2) (line + 1) 0 rest
  | c :: rest =>
    ⟨asBreak c, index, line, column⟩ ::
      if isBreak (asBreak c) then ofChars (index + 1) (line + 1) 0 rest
      else ofChars (index + 1) line (column + 1) rest

def ofText? (text : String) : Option (List Place) :=
  if text.toList.all isAdmissible then some (ofChars 0 0 0 text.toList) else none

end Place

def atSpacing (ps : List Place) : Bool := ps.head?.all fun p => isSpacing p.char

def atMarks (mark : Char) (ps : List Place) : Bool :=
  ps.head?.any (·.column = 0) && (ps.take 3).map (·.char) = [mark, mark, mark] &&
    atSpacing (ps.drop 3)

def atDocumentMark (ps : List Place) : Bool := atMarks '-' ps || atMarks '.' ps

/-- Passes over blanks, a comment and the end of the line; nothing else may stand there. -/
def lineEnd? (ps : List Place) : Option (List Place) :=
  match ps.dropWhile (isBlank ·.char) with
  | [] => some []
  | p :: rest =>
    if p.char = '#' then some ((rest.dropWhile (! isBreak ·.char)).drop 1)
    else if isBreak p.char then some rest
    else none

end ScriptMachine.Notation.Yaml
