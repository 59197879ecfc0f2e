import ScriptMachine.Value.Handle

/-!
# Call contexts

What a host tells a script about the call being made. Between calls the context is the
default one.
-/

namespace ScriptMachine

structure CallContext where
  source : Handle := .nothing
  target : Handle := .nothing
  fixedParam : Int64 := 0
  usedSkill : Option Int64 := none
deriving DecidableEq

end ScriptMachine
