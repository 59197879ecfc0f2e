/-!
# Procedure flags

The flag word of a procedure record. Bits without a known meaning are kept as they are.
-/

namespace ScriptMachine

inductive Flag where
  | timed
  | conditional
  | imported
  | exported
  | critical
deriving DecidableEq

namespace Flag

def all : List Flag := [.timed, .conditional, .imported, .exported, .critical]

def bit : Flag → UInt32
  | .timed => 1
  | .conditional => 2
  | .imported => 4
  | .exported => 8
  | .critical => 16

def name : Flag → String
  | .timed => "Timed"
  | .conditional => "Conditional"
  | .imported => "Imported"
  | .exported => "Exported"
  | .critical => "Critical"

def ofName? (s : String) : Option Flag := all.find? (·.name = s)

end Flag

structure Flags where
  bits : UInt32
deriving DecidableEq

namespace Flags

def contains (f : Flags) (flag : Flag) : Bool := f.bits &&& flag.bit != 0

def set (f : Flags) (flag : Flag) : Flags := ⟨f.bits ||| flag.bit⟩

def toList (f : Flags) : List Flag := Flag.all.filter f.contains

def text (f : Flags) : String :=
  if f.toList.isEmpty then "-" else "|".intercalate (f.toList.map Flag.name)

end Flags

end ScriptMachine
