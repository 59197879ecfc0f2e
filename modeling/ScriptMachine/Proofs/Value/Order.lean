import Mathlib
import ScriptMachine.Proofs.Value.Promotion

/-!
# Equality and order of numbers and text

The order of doubles tells their bits apart and equality tells numbers apart, so for
numbers the two can only disagree about zero, which has two representations: the zeros
are equal, but `-0` is the lesser.
-/

namespace ScriptMachine

namespace Float64

theorem signBit_eq : Double.signBit = 2 ^ 63 := rfl

theorem isZero_iff {x : Double} : x.isZero = true ↔ x = 0 ∨ x = -0 := by
  have bound := x.bits.toNat_lt
  have zero : (0 : Double).bits.toNat = 0 := by decide +kernel
  have minus : (-0 : Double).bits.toNat = 2 ^ 63 := by decide +kernel
  rw [Double.isZero, Double.magnitude, signBit_eq, decide_eq_true_iff, Double.ext_iff,
    Double.ext_iff, ← UInt64.toNat_inj, ← UInt64.toNat_inj, zero, minus]
  omega

end Float64

namespace Value

open Float64

def isNaN : Value → Bool
  | .float x => x.isNaN
  | _ => false

end Value

end ScriptMachine
