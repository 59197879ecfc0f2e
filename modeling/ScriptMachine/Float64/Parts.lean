import ScriptMachine.Float64.Double

/-!
# Doubles as exact numbers

A finite double is a signed integer times a power of two. Flooring, the truncated
remainder and all printing work on that number with integer arithmetic, so none of
them rounds twice. A double is rebuilt from such a number bit by bit.
-/

namespace ScriptMachine.Float64

structure Parts where
  negative : Bool
  significand : Nat
  exponent : Int
deriving DecidableEq

inductive Shape where
  | nan
  | infinite (negative : Bool)
  | finite (parts : Parts)
deriving DecidableEq

def fractionBits : Nat := 52

/-- Every finite double is a whole multiple of `2 ^ leastExponent`. -/
def leastExponent : Int := -1074

def exponentCount : Nat := 2048

def shape (x : Double) : Shape :=
  let biased : Nat := x.magnitude >>> fractionBits
  let fraction : Nat := x.magnitude % (1 <<< fractionBits)
  if biased = exponentCount - 1 then
    if fraction = 0 then .infinite x.isNegative else .nan
  else if biased = 0 then .finite ⟨x.isNegative, fraction, leastExponent⟩
  else .finite ⟨x.isNegative, fraction + 1 <<< fractionBits, biased - 1 + leastExponent⟩

namespace Parts

def toDouble (p : Parts) : Double :=
  let sign := if p.negative then Double.signBit else 0
  let shift := fractionBits - p.significand.log2
  let magnitude :=
    if p.significand = 0 then 0
    else if p.exponent - shift < leastExponent then
      p.significand <<< (p.exponent - leastExponent).toNat
    else p.significand <<< shift + (p.exponent - shift - leastExponent).toNat <<< fractionBits
  ⟨.ofNat (sign + magnitude)⟩

def floor (p : Parts) : Int :=
  let n : Int := if p.negative then -(p.significand : Int) else p.significand
  if 0 ≤ p.exponent then n <<< p.exponent.toNat else n >>> (-p.exponent).toNat

def remainder (p d : Parts) : Parts :=
  let e := min p.exponent d.exponent
  let a := p.significand <<< (p.exponent - e).toNat
  let b := d.significand <<< (d.exponent - e).toNat
  ⟨p.negative, a % b, e⟩

end Parts

def remainder (x y : Double) : Double :=
  match shape x, shape y with
  | .finite p, .finite d => if d.significand = 0 then .nan else (p.remainder d).toDouble
  | .finite _, .infinite _ => x
  | _, _ => .nan

/-- The greatest integer not above the number, kept within the 64-bit integers. The
value that is not a number counts as zero. -/
def floor (x : Double) : Int64 :=
  match shape x with
  | .nan => 0
  | .infinite negative => if negative then Int64.minValue else Int64.maxValue
  | .finite p => .ofInt (min Int64.maxValue.toInt (max Int64.minValue.toInt p.floor))

end ScriptMachine.Float64
