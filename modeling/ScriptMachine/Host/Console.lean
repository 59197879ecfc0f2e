import ScriptMachine.Host.Basic
import ScriptMachine.Host.Table

/-!
# The console

The host of the command line. Its world holds the player alone, keeps variables, and
reports the effects and writes that a script asks for.
-/

namespace ScriptMachine

structure Console where
  stats : Table Int64 Int64 := []
  mapVars : Table Int64 Value := []
  globalVars : Table Int64 Value := []
  externals : Table String Value := []

namespace Console

def player : Handle := ⟨0, 0⟩

def playerName : String := "dude"

def playerKind : Int64 := 1

def stored (index : Int64) : Option Value → Except HostError Value
  | some v => .ok v
  | none => .error (.variableNotFound index)

def property (c : Console) (h : Handle) (p : Property) : Except HostError Value :=
  if h ≠ player then .error (.objectNotFound h)
  else match p with
    | .name => .ok (.text playerName)
    | .pid => .ok (.int 0)
    | .type => .ok (.int playerKind)
    | .stat index =>
      match c.stats.get? index with
      | some n => .ok (.int n)
      | none => .error (.propertyNotFound h p)

/-- Only the player's stats can be written. -/
def setProperty (c : Console) (h : Handle) (p : Property) (v : Value) :
    Except HostError Unit × Console :=
  if h ≠ player then (.error (.objectNotFound h), c)
  else match p, v with
    | .stat index, .int n => (.ok (), { c with stats := c.stats.put index n })
    | _, _ => (.error (.propertyNotFound h p), c)

def answer (r : Request) (c : Console) : Reply r × Console :=
  match r with
  | .property h p => (c.property h p, c)
  | .setProperty h p v => c.setProperty h p v
  | .trigger _ _ => (.ok (), c)
  | .message table id => (.error (.messageNotFound table id), c)
  | .callProcedure script _ _ => (.error (.scriptNotFound script), c)
  | .player => (.ok player, c)
  | .mapVar index => (stored index (c.mapVars.get? index), c)
  | .setMapVar index v => (.ok (), { c with mapVars := c.mapVars.put index v })
  | .globalVar index => (stored index (c.globalVars.get? index), c)
  | .setGlobalVar index v => (.ok (), { c with globalVars := c.globalVars.put index v })
  | .fetchExternal name =>
    match c.externals.get? name with
    | some v => (.ok v, c)
    | none => (.error (.externalNotFound name), c)
  | .storeExternal name v => (.ok (), { c with externals := c.externals.put name v })
  | .exportVar name => (.ok (), { c with externals := c.externals.putNew name (.int 0) })

def report : Request → List Event
  | .setProperty h p v => [.setProperty h p v]
  | .trigger owner effect => [.effect owner effect]
  | .message table id => [.noMessages table id]
  | .callProcedure script procedure _ => [.crossCall script procedure]
  | .setMapVar index v => [.setMapVar index v]
  | .setGlobalVar index v => [.setGlobalVar index v]
  | .storeExternal name v => [.setExternal name v]
  | _ => []

def host : Host Console := { answer, report }

end Console

end ScriptMachine
