import ScriptMachine.Notation.Yaml.Spacing

/-!
# Plain scalars

Words without quotes, over several lines if these go on far enough to the right. They end
at a colon that spacing follows, at a comment, at a document mark, and within brackets at
a comma or a bracket.
-/

namespace ScriptMachine.Notation.Yaml

def isBracket (c : Char) : Bool := ['[', ']', '\x7b', '\x7d'].contains c

structure PlainText where
  text : String
  /-- Whether the line ended after the last word. -/
  lineEnded : Bool
  rest : List Place

def endsWord (flow : Bool) (p : Place) (rest : List Place) : Bool :=
  (p.char = ':' && atSpacing rest) || (flow && (p.char = ',' || isBracket p.char))

def plainText? (flow : Bool) (inner : Nat) :
    String → Spacing → List Place → Option PlainText
  | text, spacing, [] => some ⟨text, spacing.hasBreak, []⟩
  | text, spacing, p :: rest =>
    if isSpacing p.char then
      if p.char = '\t' && spacing.hasBreak && p.column < inner then none
      else plainText? flow inner text (spacing.push p.char) rest
    else if ! spacing.isEmpty &&
        ((! flow && p.column < inner) || p.char = '#' || atDocumentMark (p :: rest)) then
      some ⟨text, spacing.hasBreak, p :: rest⟩
    else if flow && p.char = ':' && rest.head?.any fun q =>
        q.char = ',' || q.char = '?' || isBracket q.char then
      none
    else if endsWord flow p rest then some ⟨text, spacing.hasBreak, p :: rest⟩
    else plainText? flow inner ((text ++ spacing.folded).push p.char) {} rest

end ScriptMachine.Notation.Yaml
