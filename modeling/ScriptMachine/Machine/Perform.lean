import ScriptMachine.Host.Basic
import ScriptMachine.Machine.Basic
import ScriptMachine.Value.Comparison
import ScriptMachine.Value.Text

/-!
# What each instruction does

An instruction takes its operands from the data stack, the topmost first. Most keep to the machine.
The others turn to the host or draw by chance. Where the host refuses, a fallback stands in for what
it was asked for, and the refusal is noted.
-/

namespace ScriptMachine

inductive Flow where
  | proceed
  | halt
deriving DecidableEq

abbrev Act (σ : Type) := EStateM Fault (Machine × World σ)

namespace Exec

def literal {α : Type} (code : Array UInt8) (read : Reader.Work α) (view : α → Value) :
    Exec Unit := do
  push (view (← operand code read))

def beforeVariableName (m : Machine) (code : Array UInt8) : Bool :=
  match Reader.peek m.position (m.reader code) with
  | .ok n _ => (Opcode.ofCode? n).any Opcode.namesVariable
  | .error .. => false

def pushString (script : Container) : Exec Unit := do
  let offset ← operand script.code Reader.uint32
  let text :=
    if beforeVariableName (← get) script.code then script.identifier? offset
    else script.string? offset
  match text with
  | some s => push (.text s)
  | none => throw (.unresolvedString offset)

def binary (f : Value → Value → Except ValueError Value) : Exec Unit := do
  let rhs ← pop
  let lhs ← pop
  push (← ofValue (f lhs rhs))

def unary (f : Value → Except ValueError Value) : Exec Unit := do
  push (← ofValue (f (← pop)))

def equality (holds : Bool → Bool) : Exec Unit :=
  binary fun a b => (a.equal b).map fun e => .ofBool (holds e)

def ordering (holds : Ordering → Bool) : Exec Unit :=
  binary fun a b => (a.compare b).map fun o => .ofBool (holds o)

def logical (f : Bool → Bool → Bool) : Exec Unit := do
  let rhs ← popLogical
  let lhs ← popLogical
  push (.ofBool (f lhs rhs))

-- The address lies below the condition.
def jumpUnless (code : Array UInt8) : Exec Unit := do
  let condition ← popLogical
  let address ← popInteger
  unless condition do jump code address

def call (script : Container) : Exec Procedure := do
  let p ← procedureAt script (← popInteger)
  onCalls (Stack.push (.ofNat (← get).position))
  jump script.code (.ofNat p.body.toNat)
  return p

/-- Replaces the arguments and their count below the result by the result, and goes back. -/
def ret (code : Array UInt8) : Exec Unit := do
  let result ← pop
  let count ← popInteger
  if count.toInt < 0 then throw (.slotOutOfRange count)
  onData (Stack.dropMany count.toInt.toNat)
  let address ← onCalls Stack.popInteger
  push result
  jump code address

def checkArgCount (script : Container) : Exec Unit := do
  let actual ← popInteger
  let p ← procedureAt script (← popInteger)
  unless p.argumentCount.toNat = actual.toInt do
    throw (.argumentCountMismatch p.name p.argumentCount actual)

def lookupProcedure (script : Container) : Exec Unit := do
  let name ← popString
  match script.index? name with
  | some index => push (.ofNat index)
  | none => throw (.unknownProcedure name)

/-- Opens a frame for the arguments below their count, which stays on top. -/
def pushBase : Exec Unit := do
  let top ← onData Stack.top
  let m ← get
  match top with
  | .int n =>
    if n.toInt < 0 then throw (.typeMismatch .argumentCount .int)
    let size := n.toInt.toNat + 1
    if m.data.length < size then throw .stackUnderflow
    onCalls (Stack.push (.ofNat m.frameBase))
    modify ({ · with frameBase := m.data.length - size })
  | v => throw (.typeMismatch .argumentCount v.kind)

def popBase : Exec Unit := do
  let base ← onCalls Stack.popInteger
  if base.toInt < 0 then throw (.slotOutOfRange base)
  modify ({ · with frameBase := base.toInt.toNat })

def fetchSlot (base : Machine → Nat) : Exec Unit := do
  let offset ← popInteger
  let index ← slotAt (base (← get)) offset
  push (← onData (Stack.slot index))

def storeSlot (base : Machine → Nat) : Exec Unit := do
  let offset ← popInteger
  let v ← pop
  let index ← slotAt (base (← get)) offset
  onData (Stack.setSlot index v)

def swap : Exec Unit := do
  let a ← pop
  let b ← pop
  push a
  push b

def machine : Exec Machine := get

end Exec

namespace Act

open Exec

variable {σ : Type}

instance : MonadLift Exec (Act σ) where
  monadLift x := fun (m, w) =>
    match x m with
    | .ok a m => .ok a (m, w)
    | .error e m => .error e (m, w)

def note (e : Event) : Act σ Unit := modify fun (m, w) => (m, w.note e)

def ask (host : Host σ) (r : Request) : Act σ (Reply r) := fun (m, w) =>
  let (reply, w) := w.ask host r
  .ok reply (m, w)

def draw (low high : Int64) : Act σ Int64 := fun (m, w) =>
  .ok (between low high w.dice.roll) (m, { w with dice := w.dice.next })

def degrade {α : Type} (reply : Except HostError α) (fallback : α) (operation : String) :
    Act σ α := do
  match reply with
  | .ok a => return a
  | .error e =>
    note (.refused operation e)
    return fallback

def within (x : Exec Unit) : Act σ Flow := do
  x
  return .proceed

def fetch (host : Host σ) (request : Request) (fallback : request.Answer) (operation : String)
    (view : request.Answer → Value) : Act σ Flow := do
  let a ← degrade (← ask host request) fallback operation
  push (view a)
  return .proceed

def effect (host : Host σ) (request : Request) (done : request.Answer) (operation : String) :
    Act σ Flow := do
  discard (degrade (← ask host request) done operation)
  return .proceed

def trigger (host : Host σ) (e : HostEffect) (operation : String) : Act σ Flow := do
  effect host (.trigger (← machine).owner e) () operation

def message (host : Host σ) (operation : String) (view : Message → String) : Act σ Flow := do
  let id ← popInteger
  let table ← popInteger
  fetch host (.message table id) {} operation (.text ∘ view)

-- Scripts test the number for failure.
def setCritterStat (host : Host σ) : Act σ Flow := do
  let n ← popInteger
  let stat ← popInteger
  let h ← popObject
  let reply ← ask host (.setProperty h (.stat stat) (.int n))
  let written ← degrade (reply.map fun _ => true) false "set_critter_stat"
  push (.int (if written then 0 else -1))
  return .proceed

def random : Act σ Flow := do
  let last ← popInteger
  let first ← popInteger
  let n ← if first.toInt ≤ last.toInt then draw first last else draw last first
  push (.int n)
  return .proceed

def perform (script : Container) (host : Host σ) : Opcode → Act σ Flow
  | .noop => return .proceed
  | .pushInt => within (literal script.code Reader.int32 fun n => .int n.toInt64)
  | .pushFloat => within (literal script.code Reader.float32 fun x => .float x.toDouble)
  | .pushString => within (pushString script)
  | .pop => within (discard pop)
  | .dup => within do push (← onData Stack.top)
  | .swap => within swap
  | .dataToReturn => within do onCalls (Stack.push (← pop))
  | .returnToData => within do push (← onCalls Stack.pop)
  | .criticalStart => within (modify ({ · with critical := true }))
  | .criticalDone => within (modify ({ · with critical := false }))
  | .jump => within do jump script.code (← popInteger)
  | .jumpUnless | .loopUnless => within (jumpUnless script.code)
  | .call => do
    let p ← call script
    note (.entering p.name p.body.toNat)
    return .proceed
  | .ret => within (ret script.code)
  | .exitProg => within do
    modify ({ · with initialized := true })
    jump script.code 0
  | .exit => return .halt
  | .checkArgCount => within (checkArgCount script)
  | .lookupStringProc => within (lookupProcedure script)
  | .pushBase => within pushBase
  | .popBase => within popBase
  | .popToBase => within (modify fun m => { m with data := m.data.truncate m.frameBase })
  | .setGlobal => within (modify fun m => { m with globalsBase := m.data.length })
  | .fetch => within (fetchSlot (·.frameBase))
  | .store => within (storeSlot (·.frameBase))
  | .fetchGlobal => within (fetchSlot (·.globalsBase))
  | .storeGlobal => within (storeSlot (·.globalsBase))
  | .localVar => within do push (← localVariable (← popInteger))
  | .setLocalVar => within do
    let v ← pop
    setLocal (← popInteger) v
  | .eq => within (equality id)
  | .ne => within (equality (! ·))
  | .lt => within (ordering (· == .lt))
  | .le => within (ordering (· != .gt))
  | .gt => within (ordering (· == .gt))
  | .ge => within (ordering (· != .lt))
  | .add => within (binary Value.add)
  | .sub => within (binary Value.sub)
  | .mul => within (binary Value.mul)
  | .div => within (binary Value.div)
  | .modulus => within (binary Value.modulus)
  | .bitAnd => within (binary Value.bitand)
  | .bitOr => within (binary Value.bitor)
  | .bitXor => within (binary Value.bitxor)
  | .concat => within (binary Value.concat)
  | .bitNot => within (unary Value.bitnot)
  | .floor => within (unary Value.floor)
  | .negate => within (unary Value.negative)
  | .and => within (logical (· && ·))
  | .or => within (logical (· || ·))
  | .not => within do push (.ofBool (! (← popLogical)))
  | .random => random
  | .scriptOverrides => within (modify ({ · with overrides := true }))
  | .selfObj => within do push (.object ((← get).owner.getD .nothing))
  | .sourceObj => within do push (.object (← get).context.source)
  | .targetObj => within do push (.object (← get).context.target)
  | .fixedParam => within do push (.int (← get).context.fixedParam)
  | .usedSkill => within do push (.int ((← get).context.usedSkill.getD (-1)))
  | .fetchExternal => do
    fetch host (.fetchExternal (← popString)) (.int 0) "fetch_external" id
  | .storeExternal => do
    let name ← popString
    effect host (.storeExternal name (← pop)) () "store_external"
  | .exportVar => do effect host (.exportVar (← popString)) () "export_var"
  | .mapVar => do fetch host (.mapVar (← popInteger)) (.int 0) "map_var" id
  | .setMapVar => do
    let v ← pop
    effect host (.setMapVar (← popInteger) v) () "set_map_var"
  | .globalVar => do fetch host (.globalVar (← popInteger)) (.int 0) "global_var" id
  | .setGlobalVar => do
    let v ← pop
    effect host (.setGlobalVar (← popInteger) v) () "set_global_var"
  | .giveExpPoints => do trigger host (.giveExperience (← popInteger)) "give_exp_points"
  | .playSfx => do trigger host (.playSound (← popString)) "play_sfx"
  | .displayMsg => do trigger host (.displayMessage (← popString)) "display_msg"
  | .playMovie => do trigger host (.playMovie (← popInteger)) "play_movie"
  | .objName => do fetch host (.property (← popObject) .name) (.text "") "obj_name" id
  | .objType => do fetch host (.property (← popObject) .type) (.int 0) "obj_type" id
  | .getCritterStat => do
    let stat ← popInteger
    fetch host (.property (← popObject) (.stat stat)) (.int 0) "get_critter_stat" id
  | .setCritterStat => setCritterStat host
  | .dudeObj => fetch host .player .nothing "dude_obj" .object
  | .messageStr => message host "message_str" (·.text)
  | .messageSpeech => message host "message_speech" (·.sound)
  | .callScriptProcedure => do
    let procedure ← popString
    let script ← popInteger
    fetch host (.callProcedure script procedure (← machine).context) (.int 0)
      "call_script_procedure" id

end Act

end ScriptMachine
