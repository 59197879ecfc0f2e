import ScriptMachine.Text.CaseData

/-!
# Lower case

Each letter is replaced by its lower-case form. Two letters are special: the dotted
capital I keeps its dot as a combining mark, and a capital sigma that ends a word
becomes the final form.
-/

namespace ScriptMachine.Text

namespace CaseRun

def covers (r : CaseRun) (n : Nat) : Bool :=
  r.first ≤ n && n ≤ r.last && (n - r.first) % r.step = 0

end CaseRun

def lowerChar (c : Char) : Char :=
  match lowerRuns.find? (·.covers c.toNat) with
  | some r => .ofNat (c.toNat + r.offset).toNat
  | none => c

def startsCased (cs : List Char) : Bool :=
  match cs.dropWhile isCaseIgnorable with
  | c :: _ => isCased c
  | [] => false

/-- `before` holds the characters already passed, the nearest first. -/
def lowerFrom (before : List Char) : List Char → List Char
  | [] => []
  | c :: rest =>
    let low :=
      if c = 'Σ' then [if startsCased before && !startsCased rest then 'ς' else 'σ']
      else if c = 'İ' then ['i', '\u0307']
      else [lowerChar c]
    low ++ lowerFrom (c :: before) rest

def lowercase (s : String) : String := .ofList (lowerFrom [] s.toList)

end ScriptMachine.Text
