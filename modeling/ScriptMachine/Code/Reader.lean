import ScriptMachine.Code.BigEndian
import ScriptMachine.Float64.Double

/-!
# Reading code

A cursor over a sequence of bytes. A read takes bytes at the cursor and moves it past them.
One that asks for more than is left names the place, the count wanted and the size.
-/

namespace ScriptMachine

structure OutOfBounds where
  offset : Nat
  wanted : Nat
  size : Nat
deriving DecidableEq

def OutOfBounds.message (e : OutOfBounds) : String :=
  "read of " ++ toString e.wanted ++ " bytes at offset " ++ toString e.offset ++
    " runs past end of code (" ++ toString e.size ++ " bytes)"

structure Reader where
  bytes : Array UInt8
  position : Nat

namespace Reader

abbrev Work := EStateM OutOfBounds Reader

def ofBytes (bytes : Array UInt8) : Reader := ⟨bytes, 0⟩

def size (r : Reader) : Nat := r.bytes.size

def remaining (r : Reader) : Nat := r.size - r.position

/-- The end of the code may be sought, nothing beyond it. -/
def seek (offset : Nat) : Work Unit := do
  let r ← get
  if r.size < offset then throw ⟨offset, 0, r.size⟩
  set { r with position := offset }

def take (count : Nat) : Work (List UInt8) := do
  let r ← get
  let last := r.position + count
  if r.size < last then throw ⟨r.position, count, r.size⟩
  set { r with position := last }
  return (r.bytes.extract r.position last).toList

def skip (count : Nat) : Work Unit := discard (take count)

-- The cursor may stand beyond the code here, where a peek has put it.
def number {α : Type} (width : Nat) (view : Nat → α) : Work α := do
  let r ← get
  if r.remaining < width then throw ⟨r.position, width, r.size⟩
  let bytes := (r.bytes.extract r.position (r.position + width)).toList
  set { r with position := r.position + width }
  return view (ofBigEndian bytes)

def uint8 : Work UInt8 := number 1 .ofNat

def uint16 : Work UInt16 := number 2 .ofNat

def uint32 : Work UInt32 := number 4 .ofNat

def int8 : Work Int8 := number 1 fun n => (UInt8.ofNat n).toInt8

def int16 : Work Int16 := number 2 fun n => (UInt16.ofNat n).toInt16

def int32 : Work Int32 := number 4 fun n => (UInt32.ofNat n).toInt32

def float32 : Work Single := number 4 fun n => ⟨.ofNat n⟩

def peek (offset : Nat) : Work UInt16 := fun r =>
  match uint16 { r with position := offset } with
  | .ok n _ => .ok n r
  | .error e _ => .error e r

end Reader

end ScriptMachine
