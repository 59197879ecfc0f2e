import ScriptMachine.Proofs.Machine.Stepping
import ScriptMachine.Proofs.Value.TotalOrder

/-!
# The relational instructions

The six relational instructions read two functions of their operands, the equality and
the order. Where these agree the instructions fit together: exactly one of less, equal
and greater holds, and the other three say what they should.
-/

namespace ScriptMachine

namespace Exec

variable {script : Container} {m : Machine} {a b v : Value} {rest : Stack}

end Exec

namespace Value

variable {op : Opcode} {a b : Value}

section

variable {e : Bool} {o : Ordering}

end

end Value

end ScriptMachine
