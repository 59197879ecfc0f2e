import ScriptMachine.Value.Arithmetic

/-!
# Equality and order of values

Numbers are equal after promotion and ordered by the total order of doubles, in which
`-0` lies below `0` and what is not a number lies, by its sign, below or above all numbers.
Text is equal and ordered by its characters. Objects have identity only, and the integer
zero equals every handle that names nothing.
-/

namespace ScriptMachine.Value

def equal (a b : Value) : Except ValueError Bool :=
  match a, b with
  | .int l, .int r => .ok (l == r)
  | .float l, .float r => .ok (l.equal r)
  | .float l, .int r => .ok (l.equal (promote r))
  | .int l, .float r => .ok ((promote l).equal r)
  | .text l, .text r => .ok (l == r)
  | .object l, .object r => .ok (l == r)
  | .object h, .int n => if n = 0 then .ok h.isNothing else mismatch .eq a b
  | .int n, .object h => if n = 0 then .ok h.isNothing else mismatch .eq a b
  | _, _ => mismatch .eq a b

def compareText (l r : String) : Ordering :=
  if l < r then .lt else if l = r then .eq else .gt

def compare (a b : Value) : Except ValueError Ordering :=
  match a, b with
  | .int l, .int r => .ok (Ord.compare l.toInt r.toInt)
  | .float l, .float r => .ok (l.compare r)
  | .float l, .int r => .ok (l.compare (promote r))
  | .int l, .float r => .ok ((promote l).compare r)
  | .text l, .text r => .ok (compareText l r)
  | _, _ => mismatch .compare a b

/-- Sameness of kind and content. Floats are the same when they are numerically equal. -/
def same (a b : Value) : Bool :=
  match a, b with
  | .none, .none => true
  | .int l, .int r => l == r
  | .float l, .float r => l.equal r
  | .text l, .text r => l == r
  | .object l, .object r => l == r
  | _, _ => false

end ScriptMachine.Value
