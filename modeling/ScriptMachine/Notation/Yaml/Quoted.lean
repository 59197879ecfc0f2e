import ScriptMachine.Notation.Json
import ScriptMachine.Notation.Yaml.Spacing

/-!
# Quoted scalars

Between single quotes a quote is written twice; between double quotes a backslash starts
an escape. Lines are folded in both.
-/

namespace ScriptMachine.Notation.Yaml

inductive QuoteStyle where
  | single
  | double
deriving DecidableEq

namespace QuoteStyle

def mark : QuoteStyle → Char
  | .single => '\''
  | .double => '"'

end QuoteStyle

inductive QuotedPart where
  | text
  /-- A single quote was read: the end, or half of a written quote. -/
  | quote
  | escape
  /-- Digits of a character's number are still to come. -/
  | digits (left value : Nat)

def escaped? (c : Char) : Option Char :=
  ([('0', '\x00'), ('a', '\x07'), ('b', '\x08'), ('t', '\t'), ('\t', '\t'), ('n', '\n'),
    ('v', '\x0b'), ('f', '\x0c'), ('r', '\r'), ('e', '\x1b'), (' ', ' '), ('"', '"'),
    ('/', '/'), ('\\', '\\'), ('N', '\u0085'), ('_', '\u00a0'), ('L', '\u2028'),
    ('P', '\u2029')] : List (Char × Char)).lookup c

def digitCount? (c : Char) : Option Nat := [('x', 2), ('u', 4), ('U', 8)].lookup c

def charOf? (n : Nat) : Option Char := if n.isValidChar then some (.ofNat n) else none

def quotedText? (style : QuoteStyle) :
    QuotedPart → String → Spacing → List Place → Option (String × List Place)
  | .quote, text, _, [] => some (text, [])
  | _, _, _, [] => none
  | part, text, spacing, p :: rest =>
    if atDocumentMark (p :: rest) then none
    else match part with
    | .text =>
      if isSpacing p.char then quotedText? style .text text (spacing.push p.char) rest
      else
        let text := text ++ spacing.folded
        if p.char = style.mark then
          match style with
          | .double => some (text, rest)
          | .single => quotedText? style .quote text {} rest
        else if style = .double && p.char = '\\' then quotedText? style .escape text {} rest
        else quotedText? style .text (text.push p.char) {} rest
    | .quote =>
      if p.char = style.mark then quotedText? style .text (text.push p.char) {} rest
      else some (text, p :: rest)
    | .escape =>
      if isBreak p.char then quotedText? style .text text .escaped rest
      else match escaped? p.char, digitCount? p.char with
        | some c, _ => quotedText? style .text (text.push c) {} rest
        | none, some left => quotedText? style (.digits left 0) text {} rest
        | none, none => none
    | .digits left value =>
      match Json.hexDigit? p.char with
      | none => none
      | some d =>
        if 1 < left then quotedText? style (.digits (left - 1) (16 * value + d)) text {} rest
        else match charOf? (16 * value + d) with
          | some c => quotedText? style .text (text.push c) {} rest
          | none => none

end ScriptMachine.Notation.Yaml
