/-!
# Limits of an instance

The budget of instructions of a single command, if there is one, and the count of local
variables.
-/

namespace ScriptMachine

structure Config where
  maxTicks : Option Nat := none
  localCount : Nat := 64
deriving DecidableEq

end ScriptMachine
