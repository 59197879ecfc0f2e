import ScriptMachine.Host.Basic

/-!
# The refusing host

A host without a world: every request is refused, each for the reason nearest to it.
-/

namespace ScriptMachine.Refusing

def refusal : Request → HostError
  | .property h _ => .objectNotFound h
  | .setProperty h p _ => .propertyNotFound h p
  | .trigger owner _ => .objectNotFound (owner.getD .nothing)
  | .message table id => .messageNotFound table id
  | .callProcedure script _ _ => .scriptNotFound script
  | .player => .objectNotFound .nothing
  | .mapVar index | .setMapVar index _ | .globalVar index | .setGlobalVar index _ =>
    .variableNotFound index
  | .fetchExternal name | .storeExternal name _ | .exportVar name => .externalNotFound name

def host : Host Unit := { answer := fun r s => (.error (refusal r), s) }

end ScriptMachine.Refusing
