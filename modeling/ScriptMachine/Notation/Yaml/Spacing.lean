import ScriptMachine.Notation.Yaml.Place

/-!
# Spacing inside a scalar

Blanks within a line stand for themselves. Of a run that goes over lines the blanks are
dropped; a single break becomes a space, and of several the first one is left out. Only a
line feed is folded so; a separator stays.
-/

namespace ScriptMachine.Notation.Yaml

structure Spacing where
  blanks : String := ""
  /-- The first break, empty if it was escaped. -/
  first : Option String := none
  further : String := ""

namespace Spacing

def escaped : Spacing := { first := some "" }

def isEmpty (s : Spacing) : Bool := s.blanks = "" && s.first.isNone

def hasBreak (s : Spacing) : Bool := s.first.isSome

def push (s : Spacing) (c : Char) : Spacing :=
  match s.first, isBreak c with
  | none, true => { s with first := some c.toString }
  | some _, true => { s with further := s.further.push c }
  | none, false => { s with blanks := s.blanks.push c }
  | some _, false => s

def folded (s : Spacing) : String :=
  match s.first with
  | none => s.blanks
  | some "\n" => if s.further = "" then " " else s.further
  | some first => first ++ s.further

end Spacing

end ScriptMachine.Notation.Yaml
