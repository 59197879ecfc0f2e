/-!
# Doubles by their bits

A double is its 64 bits, so what is not a number keeps its sign and its payload wherever it is
only moved, compared or negated. Sums, differences, products and quotients are those of `Float`,
which has a single answer that is not a number.
-/

namespace ScriptMachine

@[ext]
structure Double where
  bits : UInt64
deriving DecidableEq, Inhabited

namespace Double

def ofFloat (x : Float) : Double := ⟨x.toBits⟩

def toFloat (x : Double) : Float := .ofBits x.bits

instance (n : Nat) : OfNat Double n := ⟨ofFloat (OfNat.ofNat n)⟩

instance : Add Double := ⟨fun x y => ofFloat (x.toFloat + y.toFloat)⟩

instance : Sub Double := ⟨fun x y => ofFloat (x.toFloat - y.toFloat)⟩

instance : Mul Double := ⟨fun x y => ofFloat (x.toFloat * y.toFloat)⟩

instance : Div Double := ⟨fun x y => ofFloat (x.toFloat / y.toFloat)⟩

def signBit : Nat := 1 <<< 63

-- The sign bit of any pattern is flipped, also of one that is not a number.
instance : Neg Double := ⟨fun x => ⟨x.bits ^^^ 0x8000000000000000⟩⟩

def isNegative (x : Double) : Bool := signBit ≤ x.bits.toNat

def magnitude (x : Double) : Nat := x.bits.toNat % signBit

def infinity : Double := ⟨0x7FF0000000000000⟩

def nan : Double := ⟨0x7FF8000000000000⟩

def isNaN (x : Double) : Bool := infinity.magnitude < x.magnitude

def isZero (x : Double) : Bool := x.magnitude = 0

def equal (x y : Double) : Bool :=
  !x.isNaN && !y.isNaN && (x = y || (x.isZero && y.isZero))

/-- The place of a bit pattern in the total order of doubles. Patterns without the sign bit ascend
from zero, and those with it descend from minus one. -/
def place (bits : UInt64) : Int :=
  if bits.toNat < signBit then bits.toNat else signBit - 1 - (bits.toNat : Int)

def compareBits (l r : UInt64) : Ordering := Ord.compare (place l) (place r)

def compare (x y : Double) : Ordering := compareBits x.bits y.bits

end Double

structure Single where
  bits : UInt32
deriving DecidableEq

namespace Single

def isNaN (x : Single) : Bool := 0x7F800000 < x.bits.toNat % (1 <<< 31)

/-- The double with the same value. What is not a number keeps its sign and payload and becomes
quiet. -/
def toDouble (x : Single) : Double :=
  if x.isNaN then
    let sign := (x.bits >>> 31).toUInt64 <<< 63
    let payload := (x.bits &&& 0x7FFFFF).toUInt64 <<< 29
    ⟨sign ||| 0x7FF8000000000000 ||| payload⟩
  else .ofFloat (Float32.ofBits x.bits).toFloat

end Single

end ScriptMachine
