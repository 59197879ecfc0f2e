import ScriptMachine.Float64.Double
import ScriptMachine.Value.Handle

/-!
# Values

The values a script computes with, their kinds, and the ways an operation on values can
fail. Truth is a number, too: `1` or `0`.
-/

namespace ScriptMachine

inductive Kind where
  | none
  | int
  | float
  | text
  | object
deriving DecidableEq

namespace Kind

def all : List Kind := [.none, .int, .float, .text, .object]

def code : Kind → UInt8
  | .none => 0
  | .int => 1
  | .float => 2
  | .text => 3
  | .object => 4

def ofCode? (n : UInt8) : Option Kind := all.find? (·.code = n)

def name : Kind → String
  | .none => "NONE"
  | .int => "INT"
  | .float => "FLOAT"
  | .text => "STR"
  | .object => "OBJ"

def isNumeric : Kind → Bool
  | .int | .float => true
  | _ => false

theorem ofCode?_code (k : Kind) : ofCode? k.code = some k := by cases k <;> rfl

end Kind

inductive Value where
  -- Padding of a stack; no operation yields it.
  | none
  | int (n : Int64)
  | float (x : Double)
  | text (s : String)
  | object (h : Handle)
deriving Inhabited

inductive Operation where
  | add | sub | mul | div | modulus
  | bitand | bitor | bitxor
  | concat | eq | compare
  | negative | bitnot | floor
deriving DecidableEq

def Operation.name : Operation → String
  | .add => "add"
  | .sub => "sub"
  | .mul => "mul"
  | .div => "div"
  | .modulus => "modulus"
  | .bitand => "bitand"
  | .bitor => "bitor"
  | .bitxor => "bitxor"
  | .concat => "concat"
  | .eq => "eq"
  | .compare => "compare"
  | .negative => "negative"
  | .bitnot => "bitnot"
  | .floor => "floor"

inductive ValueError where
  | operands (op : Operation) (lhs rhs : Kind)
  | operand (op : Operation) (kind : Kind)
  | divisionByZero
  | overflow (op : Operation)
deriving DecidableEq

def ValueError.message : ValueError → String
  | .operands op lhs rhs =>
    "type mismatch in `" ++ op.name ++ "`: " ++ lhs.name ++ " and " ++ rhs.name
  | .operand op kind => "type mismatch in `" ++ op.name ++ "`: " ++ kind.name
  | .divisionByZero => "division by zero"
  | .overflow op => "integer overflow in `" ++ op.name ++ "`"

namespace Value

def ofBool (b : Bool) : Value := .int (if b then 1 else 0)

def ofNat (n : Nat) : Value := .int (.ofNat n)

def kind : Value → Kind
  | .none => .none
  | .int _ => .int
  | .float _ => .float
  | .text _ => .text
  | .object _ => .object

def isNone : Value → Bool
  | .none => true
  | _ => false

def isTrue : Value → Bool
  | .none => false
  | .int n => n != 0
  | .float x => !x.isZero
  | .text s => !s.isEmpty
  | .object h => !h.isNothing

def int? : Value → Option Int64
  | .int n => some n
  | _ => Option.none

def promote (n : Int64) : Double := .ofFloat (.ofInt n.toInt)

def float? : Value → Option Double
  | .int n => some (promote n)
  | .float x => some x
  | _ => Option.none

def text? : Value → Option String
  | .text s => some s
  | _ => Option.none

/-- The integer zero also stands for the handle that names nothing. -/
def object? : Value → Option Handle
  | .object h => some h
  | .int n => if n = 0 then some .nothing else Option.none
  | _ => Option.none

end Value

end ScriptMachine
