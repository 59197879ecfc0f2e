import ScriptMachine.Value.Basic
import ScriptMachine.Text.Quoted

/-!
# Faults

Why an instruction failed. A fault never leaves a run: the run is abandoned and its host
is told the cause.
-/

namespace ScriptMachine

inductive Expectation where
  | integer
  | number
  | string
  | object
  | argumentCount
deriving DecidableEq

def Expectation.text : Expectation → String
  | .integer => "integer"
  | .number => "number"
  | .string => "string"
  | .object => "object"
  | .argumentCount => "argument count"

inductive Fault where
  | stackUnderflow
  | typeMismatch (expected : Expectation) (found : Kind)
  | addressOutOfRange (address : Int64)
  | unknownOpcode (code : UInt16)
  | divisionByZero
  | localOutOfRange (index : Int64) (count : Nat)
  | slotOutOfRange (index : Int64)
  | unresolvedString (offset : UInt32)
  | unknownProcedure (designation : String)
  | argumentCountMismatch (procedure : String) (expected : UInt32) (actual : Int64)
  | tickLimitExceeded (limit : Nat)
  | value (error : ValueError)
deriving DecidableEq

def wordText (code : UInt16) : String :=
  let digits := Nat.toDigits 16 code.toNat
  "0x" ++ String.ofList (List.replicate (4 - digits.length) '0' ++ digits)

namespace Fault

/-- A refused division is a fault of its own. -/
def ofValue : ValueError → Fault
  | .divisionByZero => .divisionByZero
  | e => .value e

def message : Fault → String
  | .stackUnderflow => "stack underflow"
  | .typeMismatch expected found =>
    "type mismatch: expected " ++ expected.text ++ ", found " ++ found.name
  | .addressOutOfRange address =>
    "address " ++ toString address.toInt ++ " is outside the code segment"
  | .unknownOpcode code => "unknown opcode " ++ wordText code
  | .divisionByZero => "division by zero"
  | .localOutOfRange index count =>
    "local variable " ++ toString index.toInt ++ " out of range (" ++ toString count ++ " slots)"
  | .slotOutOfRange index => "stack slot " ++ toString index.toInt ++ " out of range"
  | .unresolvedString offset => "no string table entry at offset " ++ toString offset.toNat
  | .unknownProcedure designation => "unknown procedure " ++ designation
  | .argumentCountMismatch procedure expected actual =>
    "procedure `" ++ procedure ++ "` takes " ++ toString expected.toNat ++
      " arguments, called with " ++ toString actual.toInt
  | .tickLimitExceeded limit =>
    "tick limit of " ++ toString limit ++ " instructions exceeded"
  | .value error => error.message

theorem message_ofValue (e : ValueError) : (ofValue e).message = e.message := by cases e <;> rfl

end Fault

def labelled (name : String) (parts : List (String × String)) : String :=
  name ++ " \x7b " ++ ", ".intercalate (parts.map fun (label, text) => label ++ ": " ++ text) ++
    " \x7d"

def wrapped (name part : String) : String := name ++ "(" ++ part ++ ")"

def Kind.detailed (k : Kind) : String := "TYPE_" ++ k.name

namespace ValueError

def name : ValueError → String
  | .operands .. => "BinaryTypeMismatch"
  | .operand .. => "UnaryTypeMismatch"
  | .divisionByZero => "DivisionByZero"
  | .overflow _ => "Overflow"

def detailed (e : ValueError) : String :=
  match e with
  | .operands op lhs rhs =>
    labelled e.name [("op", Text.quoted op.name), ("lhs", lhs.detailed), ("rhs", rhs.detailed)]
  | .operand op kind =>
    labelled e.name [("op", Text.quoted op.name), ("operand", kind.detailed)]
  | .divisionByZero => e.name
  | .overflow op => wrapped e.name (Text.quoted op.name)

end ValueError

namespace Fault

def name : Fault → String
  | .stackUnderflow => "StackUnderflow"
  | .typeMismatch .. => "TypeMismatch"
  | .addressOutOfRange _ => "AddressOutOfRange"
  | .unknownOpcode _ => "UnknownOpcode"
  | .divisionByZero => "DivisionByZero"
  | .localOutOfRange .. => "LocalOutOfRange"
  | .slotOutOfRange _ => "SlotOutOfRange"
  | .unresolvedString _ => "UnresolvedString"
  | .unknownProcedure _ => "UnknownProcedure"
  | .argumentCountMismatch .. => "ArgumentCountMismatch"
  | .tickLimitExceeded _ => "TickLimitExceeded"
  | .value _ => "Value"

def detailed (f : Fault) : String :=
  match f with
  | .stackUnderflow | .divisionByZero => f.name
  | .typeMismatch expected found =>
    labelled f.name [("expected", Text.quoted expected.text), ("found", found.detailed)]
  | .addressOutOfRange n | .slotOutOfRange n => wrapped f.name (toString n.toInt)
  | .unknownOpcode code => wrapped f.name (toString code.toNat)
  | .localOutOfRange index count =>
    labelled f.name [("index", toString index.toInt), ("count", toString count)]
  | .unresolvedString offset => wrapped f.name (toString offset.toNat)
  | .unknownProcedure designation => wrapped f.name (Text.quoted designation)
  | .argumentCountMismatch procedure expected actual =>
    labelled f.name [("procedure", Text.quoted procedure),
      ("expected", toString expected.toNat), ("actual", toString actual.toInt)]
  | .tickLimitExceeded limit => wrapped f.name (toString limit)
  | .value error => wrapped f.name error.detailed

end Fault

end ScriptMachine
