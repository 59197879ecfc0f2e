import ScriptMachine.Host.Basic
import ScriptMachine.Host.Table

/-!
# The sandbox

A host that keeps a whole world in memory and records every effect and call. Objects
live in slots; destroying one raises the generation of its slot, so handles issued
before never resolve to what takes the slot later.
-/

namespace ScriptMachine

structure Entity where
  name : String := ""
  pid : Int64 := 0
  kind : Int64 := 0
  stats : Table Int64 Int64 := []
deriving DecidableEq

namespace Entity

def property? (e : Entity) : Property → Option Value
  | .name => some (.text e.name)
  | .pid => some (.int e.pid)
  | .type => some (.int e.kind)
  | .stat index => (e.stats.get? index).map .int

def write? (e : Entity) : Property → Value → Option Entity
  | .name, .text name => some { e with name }
  | .pid, .int pid => some { e with pid }
  | .type, .int kind => some { e with kind }
  | .stat index, .int n => some { e with stats := e.stats.put index n }
  | _, _ => none

end Entity

structure Slot where
  generation : UInt32
  entity : Option Entity

structure Sandbox where
  slots : Array Slot := #[]
  -- Every handle that was ever given out, in order.
  issued : Array Handle := #[]
  player : Option Handle := none
  messages : Table (Int64 × Int64) Message := []
  mapVars : Table Int64 Value := []
  globalVars : Table Int64 Value := []
  externals : Table String Value := []
  exported : Array String := #[]
  effects : Array (Option Handle × HostEffect) := #[]
  results : Table (Int64 × String) Value := []
  calls : Array (Int64 × String × CallContext) := #[]

namespace Sandbox

/-- The handle that the next object gets: of the first free slot, or of a new one. -/
def vacancy (s : Sandbox) : Handle :=
  match s.slots.findIdx? (·.entity.isNone) with
  | some index => ⟨.ofNat index, (s.slots[index]?.map (·.generation)).getD 0⟩
  | none => ⟨.ofNat s.slots.size, 0⟩

def spawn (s : Sandbox) (e : Entity) : Handle × Sandbox :=
  let h := s.vacancy
  let slot : Slot := ⟨h.generation, some e⟩
  let slots :=
    match s.slots.findIdx? (·.entity.isNone) with
    | some index => s.slots.setIfInBounds index slot
    | none => s.slots.push slot
  (h, { s with slots, issued := s.issued.push h })

def entity? (s : Sandbox) (h : Handle) : Option Entity :=
  match s.slots[h.index.toNat]? with
  | some slot => if slot.generation = h.generation then slot.entity else none
  | none => none

def destroy (s : Sandbox) (h : Handle) : Bool × Sandbox :=
  if (s.entity? h).isSome then
    (true, { s with slots := s.slots.setIfInBounds h.index.toNat ⟨h.generation + 1, none⟩ })
  else (false, s)

def replace (s : Sandbox) (h : Handle) (e : Entity) : Sandbox :=
  { s with slots := s.slots.setIfInBounds h.index.toNat ⟨h.generation, some e⟩ }

def orError {α : Type} (e : HostError) : Option α → Except HostError α
  | some a => .ok a
  | none => .error e

def setProperty (s : Sandbox) (h : Handle) (p : Property) (v : Value) :
    Except HostError Unit × Sandbox :=
  match s.entity? h with
  | none => (.error (.objectNotFound h), s)
  | some e =>
    match e.write? p v with
    | none => (.error (.propertyNotFound h p), s)
    | some e => (.ok (), s.replace h e)

def answer (r : Request) (s : Sandbox) : Reply r × Sandbox :=
  match r with
  | .property h p =>
    match s.entity? h with
    | none => (.error (.objectNotFound h), s)
    | some e => (orError (.propertyNotFound h p) (e.property? p), s)
  | .setProperty h p v => s.setProperty h p v
  | .trigger owner effect => (.ok (), { s with effects := s.effects.push (owner, effect) })
  | .message table id => (orError (.messageNotFound table id) (s.messages.get? (table, id)), s)
  | .callProcedure script procedure context =>
    (orError (.procedureNotFound script procedure) (s.results.get? (script, procedure)),
      { s with calls := s.calls.push (script, procedure, context) })
  | .player => (orError (.objectNotFound .nothing) s.player, s)
  | .mapVar index => (orError (.variableNotFound index) (s.mapVars.get? index), s)
  | .setMapVar index v => (.ok (), { s with mapVars := s.mapVars.put index v })
  | .globalVar index => (orError (.variableNotFound index) (s.globalVars.get? index), s)
  | .setGlobalVar index v => (.ok (), { s with globalVars := s.globalVars.put index v })
  | .fetchExternal name => (orError (.externalNotFound name) (s.externals.get? name), s)
  | .storeExternal name v => (.ok (), { s with externals := s.externals.put name v })
  | .exportVar name =>
    (.ok (), { s with
      externals := s.externals.putNew name (.int 0)
      exported := s.exported.push name })

def host : Host Sandbox := { answer }

end Sandbox

end ScriptMachine
