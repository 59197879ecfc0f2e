import ScriptMachine.Code.Opcode
import ScriptMachine.Container.Basic
import ScriptMachine.Machine.Context
import ScriptMachine.Machine.Stack

/-!
# The machine

Everything that the instructions of one script instance change. Two registers point into
the data stack: the frame base at the first argument of the current procedure, the
globals base at the script's own variables. The call stack holds return addresses and
saved frame bases.
-/

namespace ScriptMachine

structure Machine where
  position : Nat := 0
  opcode : UInt16 := 0
  opcodeOffset : Nat := 0
  data : Stack := []
  calls : Stack := []
  locals : Array Value := #[]
  frameBase : Nat := 0
  globalsBase : Nat := 0
  context : CallContext := {}
  owner : Option Handle := none
  overrides : Bool := false
  initialized : Bool := false
  critical : Bool := false

abbrev Exec := EStateM Fault Machine

namespace Machine

def new (owner : Option Handle) (locals : Nat) : Machine :=
  { owner, locals := .replicate locals (.int 0) }

def reader (m : Machine) (code : Array UInt8) : Reader := ⟨code, m.position⟩

def atEnd (m : Machine) (code : Array UInt8) : Bool := (m.reader code).remaining = 0

/-- Drops the call frames, but not the globals. -/
def resetFrames (m : Machine) : Machine :=
  { m with calls := [], frameBase := 0, critical := false }

end Machine

namespace Exec

def onData {α : Type} (f : Stack.Work α) : Exec α := fun m =>
  match f m.data with
  | .ok a s => .ok a { m with data := s }
  | .error e s => .error e { m with data := s }

def onCalls {α : Type} (f : Stack.Work α) : Exec α := fun m =>
  match f m.calls with
  | .ok a s => .ok a { m with calls := s }
  | .error e s => .error e { m with calls := s }

def push (v : Value) : Exec Unit := onData (Stack.push v)

def pop : Exec Value := onData Stack.pop

def popInteger : Exec Int64 := onData Stack.popInteger

def popString : Exec String := onData Stack.popString

def popObject : Exec Handle := onData Stack.popObject

def popLogical : Exec Bool := onData Stack.popLogical

def ofValue {α : Type} : Except ValueError α → Exec α
  | .ok a => return a
  | .error e => throw (.ofValue e)

def jump (code : Array UInt8) (address : Int64) : Exec Unit := do
  if 0 ≤ address.toInt ∧ address.toInt < code.size then
    modify ({ · with position := address.toInt.toNat })
  else throw (.addressOutOfRange address)

def operand {α : Type} (code : Array UInt8) (read : Reader.Work α) : Exec α := fun m =>
  match read (m.reader code) with
  | .ok a r => .ok a { m with position := r.position }
  | .error e r => .error (.addressOutOfRange (.ofNat e.offset)) { m with position := r.position }

def slotAt (base : Nat) (offset : Int64) : Exec Nat := do
  if 0 ≤ offset.toInt ∧ base + offset.toInt.toNat < UInt64.size then
    return base + offset.toInt.toNat
  else throw (.slotOutOfRange offset)

def localIndex (index : Int64) : Exec Nat := do
  let count := (← get).locals.size
  if 0 ≤ index.toInt ∧ index.toInt < count then return index.toInt.toNat
  else throw (.localOutOfRange index count)

def localVariable (index : Int64) : Exec Value := do
  let i ← localIndex index
  return (← get).locals[i]?.getD .none

def setLocal (index : Int64) (v : Value) : Exec Unit := do
  let i ← localIndex index
  modify fun m => { m with locals := m.locals.setIfInBounds i v }

def procedureAt (script : Container) (index : Int64) : Exec Procedure := do
  let found := if 0 ≤ index.toInt then script.procedureAt? index.toInt.toNat else none
  match found with
  | some p => return p
  | none => throw (.unknownProcedure ("#" ++ toString index.toInt))

end Exec

end ScriptMachine
