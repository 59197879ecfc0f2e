import ScriptMachine.Value.Basic
import ScriptMachine.Float64.Parts

/-!
# Arithmetic on values

Integer results are exact or refused. A number meeting a float is promoted first. Text,
objects and the padding value take part in no arithmetic.
-/

namespace ScriptMachine.Value

def checked (op : Operation) (n : Int) : Except ValueError Value :=
  if Int64.minValue.toInt ≤ n ∧ n ≤ Int64.maxValue.toInt then .ok (.int (.ofInt n))
  else .error (.overflow op)

def mismatch {α : Type} (op : Operation) (a b : Value) : Except ValueError α :=
  .error (.operands op a.kind b.kind)

def numeric (op : Operation) (exact : Int → Int → Int) (rounded : Double → Double → Double)
    (a b : Value) : Except ValueError Value :=
  match a, b with
  | .int l, .int r => checked op (exact l.toInt r.toInt)
  | .float l, .float r => .ok (.float (rounded l r))
  | .float l, .int r => .ok (.float (rounded l (promote r)))
  | .int l, .float r => .ok (.float (rounded (promote l) r))
  | _, _ => mismatch op a b

def add : Value → Value → Except ValueError Value := numeric .add (· + ·) (· + ·)

def sub : Value → Value → Except ValueError Value := numeric .sub (· - ·) (· - ·)

def mul : Value → Value → Except ValueError Value := numeric .mul (· * ·) (· * ·)

def isZero : Value → Bool
  | .int n => n == 0
  | .float x => x.isZero
  | _ => false

def dividing (op : Operation) (exact : Int64 → Int64 → Except ValueError Value)
    (rounded : Double → Double → Double) (a b : Value) : Except ValueError Value :=
  if a.kind.isNumeric && b.isZero then .error .divisionByZero
  else match a, b with
    | .int l, .int r => exact l r
    | .float l, .float r => .ok (.float (rounded l r))
    | .float l, .int r => .ok (.float (rounded l (promote r)))
    | .int l, .float r => .ok (.float (rounded (promote l) r))
    | _, _ => mismatch op a b

def div : Value → Value → Except ValueError Value :=
  dividing .div (fun l r => checked .div (l.toInt.tdiv r.toInt)) (· / ·)

/-- The remainder has the sign of the dividend. It is refused where the quotient does
not fit. -/
def modulus : Value → Value → Except ValueError Value :=
  dividing .modulus
    (fun l r => (checked .modulus (l.toInt.tdiv r.toInt)).map
      fun _ => .int (.ofInt (l.toInt.tmod r.toInt)))
    Float64.remainder

def bitwise (op : Operation) (f : Int64 → Int64 → Int64) (a b : Value) :
    Except ValueError Value :=
  match a, b with
  | .int l, .int r => .ok (.int (f l r))
  | _, _ => mismatch op a b

def bitand : Value → Value → Except ValueError Value := bitwise .bitand (· &&& ·)

def bitor : Value → Value → Except ValueError Value := bitwise .bitor (· ||| ·)

def bitxor : Value → Value → Except ValueError Value := bitwise .bitxor (· ^^^ ·)

def negative : Value → Except ValueError Value
  | .int n => checked .negative (-n.toInt)
  | .float x => .ok (.float (-x))
  | v => .error (.operand .negative v.kind)

def bitnot : Value → Except ValueError Value
  | .int n => .ok (.int (~~~n))
  | v => .error (.operand .bitnot v.kind)

def floor : Value → Except ValueError Value
  | .int n => .ok (.int n)
  | .float x => .ok (.int (Float64.floor x))
  | v => .error (.operand .floor v.kind)

end ScriptMachine.Value
