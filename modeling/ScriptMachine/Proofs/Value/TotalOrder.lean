import Mathlib
import ScriptMachine.Proofs.Value.Order

/-!
# The order of values

Two numbers have an order and so do two texts, and nothing else does. Seen from the other
operand the order is the opposite one. The integers, the doubles by their bits, and the texts
are each in a total order. Integers and doubles together are not, since a great integer is
rounded before it meets a double.
-/

namespace ScriptMachine

section

variable {α : Type} {f : α → α → Ordering} [Std.TransCmp f] {a b c : α}

end

namespace Float64

instance : Std.TransCmp Double.compareBits :=
  inferInstanceAs (Std.TransCmp (compareOn Double.place))

end Float64

namespace Value

open Float64 Double

instance : Std.TransCmp compareText :=
  inferInstanceAs (Std.TransCmp (Ord.compare : String → String → Ordering))

def Comparable (a b : Value) : Prop :=
  a.kind.isNumeric = true ∧ b.kind.isNumeric = true ∨ a.kind = .text ∧ b.kind = .text

variable {a b c : Value} {o p : Ordering}

theorem Comparable.symm (h : Comparable a b) : Comparable b a :=
  h.imp And.symm And.symm

/-- Two integers can be level with one double and not with each other. -/
example :
    compare (.int 9007199254740993) (.float 9007199254740992) = .ok .eq ∧
    compare (.float 9007199254740992) (.int 9007199254740992) = .ok .eq ∧
    compare (.int 9007199254740993) (.int 9007199254740992) = .ok .gt := by decide +kernel

end Value

end ScriptMachine
