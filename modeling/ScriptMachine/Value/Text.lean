import ScriptMachine.Value.Arithmetic
import ScriptMachine.Float64.Shortest
import ScriptMachine.Text.Quoted

/-!
# Values as text

The plain form goes into messages and concatenations: five decimal places for floats,
text as it is. The detailed form is for diagnostics: floats that read back, quoted text.
-/

namespace ScriptMachine.Value

def places : Nat := 5

def plain : Value → String
  | .none => ""
  | .int n => toString n.toInt
  | .float x => Float64.fixed places x
  | .text s => s
  | .object h => h.text

def detailed : Value → String
  | .none => "None"
  | .int n => toString n.toInt
  | .float x => Float64.shortest x
  | .text s => Text.quoted s
  | .object h => h.text

/-- The left operand must be text; the right one is appended in its plain form. -/
def concat (a b : Value) : Except ValueError Value :=
  match a, b with
  | .text _, .none => mismatch .concat a b
  | .text l, r => .ok (.text (l ++ r.plain))
  | _, _ => mismatch .concat a b

end ScriptMachine.Value
