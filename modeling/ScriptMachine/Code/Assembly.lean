import ScriptMachine.Code.BigEndian
import ScriptMachine.Code.Opcode

/-!
# Assembling code

A block of code is a sequence of items, some of which push the address of a label. Labels
are bound to places in the block and become addresses when the block is given its base.
Two bases change only the addresses of bound labels.
-/

namespace ScriptMachine

structure Label where
  index : Nat
deriving DecidableEq

inductive CodeItem where
  | word (code : UInt16)
  | int (n : Int32)
  | float (bits : UInt32)
  | text (offset : UInt32)
  | address (label : Label)

namespace CodeItem

def size : CodeItem → Nat
  | .word _ => 2
  | _ => 6

def literal (op : Opcode) (operand : UInt32) : List UInt8 :=
  bigEndian 2 op.code.toNat ++ bigEndian 4 operand.toNat

def encode (address : Label → UInt32) : CodeItem → List UInt8
  | .word code => bigEndian 2 code.toNat
  | .int n => literal .pushInt n.toUInt32
  | .float bits => literal .pushFloat bits
  | .text offset => literal .pushString offset
  | .address label => literal .pushInt (address label)

def totalSize : List CodeItem → Nat
  | [] => 0
  | item :: rest => item.size + totalSize rest

theorem length_encode (address : Label → UInt32) (item : CodeItem) :
    (item.encode address).length = item.size := by
  cases item <;> simp [encode, literal, size, length_bigEndian]

theorem length_flatMap_encode (address : Label → UInt32) (items : List CodeItem) :
    (items.flatMap (encode address)).length = totalSize items := by
  induction items with
  | nil => rfl
  | cons item rest ih => simp [totalSize, ih, length_encode]

end CodeItem

structure Block where
  items : Array CodeItem := #[]
  labels : Array (Option Nat) := #[]

namespace Block

def size (b : Block) : Nat := CodeItem.totalSize b.items.toList

def isEmpty (b : Block) : Bool := b.size = 0

def emit (b : Block) (item : CodeItem) : Block := { b with items := b.items.push item }

def op (b : Block) (op : Opcode) : Block := b.emit (.word op.code)

def newLabel (b : Block) : Label × Block :=
  (⟨b.labels.size⟩, { b with labels := b.labels.push none })

def bind (b : Block) (label : Label) : Block :=
  { b with labels := b.labels.setIfInBounds label.index (some b.size) }

def here (b : Block) : Label × Block :=
  let (label, b) := b.newLabel
  (label, b.bind label)

/-- The address of a label in a block that starts at `base`. A label that was never bound
has the address zero. -/
def address (b : Block) (base : UInt32) (label : Label) : UInt32 :=
  match b.labels[label.index]? with
  | some (some place) => base + .ofNat place
  | _ => 0

def assemble (b : Block) (base : UInt32) : List UInt8 :=
  b.items.toList.flatMap (CodeItem.encode (b.address base))

theorem length_assemble (b : Block) (base : UInt32) : (b.assemble base).length = b.size :=
  CodeItem.length_flatMap_encode _ _

end Block

end ScriptMachine
