import Mathlib.Tactic.Common
import ScriptMachine.Host.Refusing
import ScriptMachine.Machine.Step

/-!
# Requests come last

However an instruction may mix its work with requests, it does the same as one that does all of
its own work first and then at most asks for one thing: a draw of chance, or an answer of the host.
The answer can do no more than choose the value that is pushed, and a refusal chooses a default.
This is shown opcode by opcode, and from there on instructions are looked at in that form.
-/

namespace ScriptMachine

structure Query where
  request : Request
  operation : String
  deliver : Option (Reply request → Value) := none

inductive Turn where
  | next
  | entered (procedure : Procedure)
  | halt
  | draw (low high : Int64)
  | ask (query : Query)

namespace Turn

def fetch (request : Request) (operation : String) (view : request.Answer → Value)
    (default : Value) : Turn :=
  .ask ⟨request, operation, some fun
    | .ok a => view a
    | .error _ => default⟩

def effect (request : Request) (operation : String) : Turn := .ask ⟨request, operation, none⟩

end Turn

namespace Exec

def next (x : Exec Unit) : Exec Turn := do
  x
  return .next

def trigger (operation : String) (e : HostEffect) : Exec Turn :=
  return .effect (.trigger (← machine).owner e) operation

def fetchProperty (operation : String) (default : Value) (p : Property) (h : Handle) : Turn :=
  .fetch (.property h p) operation id default

def message (operation : String) (view : Message → String) : Exec Turn := do
  let id ← popInteger
  let table ← popInteger
  return .fetch (.message table id) operation (.text ∘ view) (.text (view {}))

def written : Except HostError Unit → Value
  | .ok _ => .int 0
  | .error _ => .int (-1)

/-- What an instruction does by itself, and what it asks for then. -/
def perform (script : Container) : Opcode → Exec Turn
  | .noop => return .next
  | .pushInt => next (literal script.code Reader.int32 fun n => .int n.toInt64)
  | .pushFloat => next (literal script.code Reader.float32 fun x => .float x.toDouble)
  | .pushString => next (pushString script)
  | .pop => next (discard pop)
  | .dup => next do push (← onData Stack.top)
  | .swap => next swap
  | .dataToReturn => next do onCalls (Stack.push (← pop))
  | .returnToData => next do push (← onCalls Stack.pop)
  | .criticalStart => next (modify ({ · with critical := true }))
  | .criticalDone => next (modify ({ · with critical := false }))
  | .jump => next do jump script.code (← popInteger)
  | .jumpUnless | .loopUnless => next (jumpUnless script.code)
  | .call => return .entered (← call script)
  | .ret => next (ret script.code)
  | .exitProg => next do
    modify ({ · with initialized := true })
    jump script.code 0
  | .exit => return .halt
  | .checkArgCount => next (checkArgCount script)
  | .lookupStringProc => next (lookupProcedure script)
  | .pushBase => next pushBase
  | .popBase => next popBase
  | .popToBase => next (modify fun m => { m with data := m.data.truncate m.frameBase })
  | .setGlobal => next (modify fun m => { m with globalsBase := m.data.length })
  | .fetch => next (fetchSlot (·.frameBase))
  | .store => next (storeSlot (·.frameBase))
  | .fetchGlobal => next (fetchSlot (·.globalsBase))
  | .storeGlobal => next (storeSlot (·.globalsBase))
  | .localVar => next do push (← localVariable (← popInteger))
  | .setLocalVar => next do
    let v ← pop
    setLocal (← popInteger) v
  | .eq => next (equality id)
  | .ne => next (equality (! ·))
  | .lt => next (ordering (· == .lt))
  | .le => next (ordering (· != .gt))
  | .gt => next (ordering (· == .gt))
  | .ge => next (ordering (· != .lt))
  | .add => next (binary Value.add)
  | .sub => next (binary Value.sub)
  | .mul => next (binary Value.mul)
  | .div => next (binary Value.div)
  | .modulus => next (binary Value.modulus)
  | .bitAnd => next (binary Value.bitand)
  | .bitOr => next (binary Value.bitor)
  | .bitXor => next (binary Value.bitxor)
  | .concat => next (binary Value.concat)
  | .bitNot => next (unary Value.bitnot)
  | .floor => next (unary Value.floor)
  | .negate => next (unary Value.negative)
  | .and => next (logical (· && ·))
  | .or => next (logical (· || ·))
  | .not => next do push (.ofBool (! (← popLogical)))
  | .random => do
    let last ← popInteger
    let first ← popInteger
    return if first.toInt ≤ last.toInt then .draw first last else .draw last first
  | .scriptOverrides => next (modify ({ · with overrides := true }))
  | .selfObj => next do push (.object ((← get).owner.getD .nothing))
  | .sourceObj => next do push (.object (← get).context.source)
  | .targetObj => next do push (.object (← get).context.target)
  | .fixedParam => next do push (.int (← get).context.fixedParam)
  | .usedSkill => next do push (.int ((← get).context.usedSkill.getD (-1)))
  | .fetchExternal =>
    return .fetch (.fetchExternal (← popString)) "fetch_external" id (.int 0)
  | .storeExternal => do
    let name ← popString
    return .effect (.storeExternal name (← pop)) "store_external"
  | .exportVar => return .effect (.exportVar (← popString)) "export_var"
  | .mapVar => return .fetch (.mapVar (← popInteger)) "map_var" id (.int 0)
  | .setMapVar => do
    let v ← pop
    return .effect (.setMapVar (← popInteger) v) "set_map_var"
  | .globalVar => return .fetch (.globalVar (← popInteger)) "global_var" id (.int 0)
  | .setGlobalVar => do
    let v ← pop
    return .effect (.setGlobalVar (← popInteger) v) "set_global_var"
  | .giveExpPoints => do trigger "give_exp_points" (.giveExperience (← popInteger))
  | .playSfx => do trigger "play_sfx" (.playSound (← popString))
  | .displayMsg => do trigger "display_msg" (.displayMessage (← popString))
  | .playMovie => do trigger "play_movie" (.playMovie (← popInteger))
  | .objName => return fetchProperty "obj_name" (.text "") .name (← popObject)
  | .objType => return fetchProperty "obj_type" (.int 0) .type (← popObject)
  | .getCritterStat => do
    let stat ← popInteger
    return fetchProperty "get_critter_stat" (.int 0) (.stat stat) (← popObject)
  | .setCritterStat => do
    let n ← popInteger
    let stat ← popInteger
    let h ← popObject
    return .ask ⟨.setProperty h (.stat stat) (.int n), "set_critter_stat", some written⟩
  | .dudeObj => return .fetch .player "dude_obj" .object (.object .nothing)
  | .messageStr => message "message_str" (·.text)
  | .messageSpeech => message "message_speech" (·.sound)
  | .callScriptProcedure => do
    let procedure ← popString
    let script ← popInteger
    return .fetch (.callProcedure script procedure (← machine).context) "call_script_procedure" id
      (.int 0)

end Exec

variable {σ : Type}

namespace Machine

def receive (m : Machine) : Option Value → Machine
  | some v => { m with data := v :: m.data }
  | none => m

def settleQuery (host : Host σ) (q : Query) (m : Machine) (w : World σ) : Machine × World σ :=
  let (reply, w) := w.ask host q.request
  let w := match reply with
    | .ok _ => w
    | .error e => w.note (.refused q.operation e)
  (m.receive (q.deliver.map (· reply)), w)

def settle (host : Host σ) (turn : Turn) (m : Machine) (w : World σ) :
    StepOutcome × Machine × World σ :=
  match turn with
  | .next => (.continuing, m, w)
  | .entered p => (.continuing, m, w.note (.entering p.name p.body.toNat))
  | .halt => (.halted, m, w)
  | .draw low high =>
    (.continuing, m.receive (some (.int (between low high w.dice.roll))),
      { w with dice := w.dice.next })
  | .ask q => (.continuing, m.settleQuery host q w)

def finish (host : Host σ) (w : World σ) :
    EStateM.Result Fault Machine Turn → StepOutcome × Machine × World σ
  | .ok turn m => m.settle host turn w
  | .error e m => (.failed e, m, w)

theorem finish_pure (host : Host σ) (turn : Turn) (m : Machine) (w : World σ) :
    finish host w ((pure turn : Exec Turn) m) = m.settle host turn w := rfl

end Machine

def Act.outcome : EStateM.Result Fault (Machine × World σ) Flow → StepOutcome × Machine × World σ
  | .ok .proceed after => (.continuing, after)
  | .ok .halt after => (.halted, after)
  | .error e after => (.failed e, after)

/-- The work on the machine that ends with a turn comes to the same. -/
def Defers (host : Host σ) (act : Act σ Flow) (x : Exec Turn) : Prop :=
  ∀ m w, Act.outcome (act (m, w)) = Machine.finish host w (x m)

namespace Defers

open Act

variable {α : Type} {host : Host σ}

theorem bind {x : Exec α} {k : α → Act σ Flow} {l : α → Exec Turn}
    (h : ∀ a, Defers host (k a) (l a)) : Defers host (liftM x >>= k) (x >>= l) := by
  intro m w
  simp only [Bind.bind, EStateM.bind, liftM, monadLift, MonadLift.monadLift]
  cases x m with
  | ok a m => exact h a m w
  | error e m => rfl

theorem proceed : Defers host (pure .proceed) (pure .next) := fun _ _ => rfl

theorem halt : Defers host (pure .halt) (pure .halt) := fun _ _ => rfl

theorem within (x : Exec Unit) : Defers host (Act.within x) (Exec.next x) :=
  .bind fun _ => .proceed

theorem fetch (request : Request) (fallback : request.Answer) (operation : String)
    (view : request.Answer → Value) :
    Defers host (Act.fetch host request fallback operation view)
      (pure (.fetch request operation view (view fallback))) := by
  intro m w
  rw [Machine.finish_pure]
  simp only [Act.fetch, Bind.bind, EStateM.bind, ask, Machine.settle, Turn.fetch,
    Machine.settleQuery]
  cases (w.ask host request).1 <;> rfl

theorem effect (request : Request) (done : request.Answer) (operation : String) :
    Defers host (Act.effect host request done operation)
      (pure (.effect request operation)) := by
  intro m w
  rw [Machine.finish_pure]
  simp only [Act.effect, Bind.bind, EStateM.bind, ask, Machine.settle, Turn.effect,
    Machine.settleQuery]
  cases (w.ask host request).1 <;> rfl

theorem trigger (e : HostEffect) (operation : String) :
    Defers host (Act.trigger host e operation) (Exec.trigger operation e) :=
  .bind fun _ => .effect _ _ _

theorem message (operation : String) (view : Message → String) :
    Defers host (Act.message host operation view) (Exec.message operation view) :=
  .bind fun _ => .bind fun _ => .fetch _ _ _ _

theorem setCritterStat (script : Container) :
    Defers host (Act.setCritterStat host) (Exec.perform script .setCritterStat) := by
  refine .bind fun n => .bind fun stat => .bind fun h => fun m w => ?_
  rw [Machine.finish_pure]
  simp only [Bind.bind, EStateM.bind, ask, Machine.settle, Machine.settleQuery]
  cases (w.ask host (.setProperty h (.stat stat) (.int n))).1 <;> rfl

theorem random (script : Container) :
    Defers host Act.random (Exec.perform script .random) := by
  refine .bind fun last => .bind fun first => fun m w => ?_
  by_cases ordered : first.toInt ≤ last.toInt <;> simp only [ordered, if_true, if_false] <;> rfl

theorem call (script : Container) :
    Defers host (Act.perform script host .call) (Exec.perform script .call) :=
  .bind fun _ => fun _ _ => rfl

theorem perform (script : Container) (op : Opcode) :
    Defers host (Act.perform script host op) (Exec.perform script op) := by
  cases op with
  | noop => exact .proceed
  | exit => exact .halt
  | call => exact .call script
  | random => exact .random script
  | setCritterStat => exact .setCritterStat script
  | messageStr | messageSpeech => exact .message _ _
  | dudeObj => exact .fetch _ _ _ _
  | fetchExternal | mapVar | globalVar | objName | objType => exact .bind fun _ => .fetch _ _ _ _
  | getCritterStat => exact .bind fun _ => .bind fun _ => .fetch _ _ _ _
  | callScriptProcedure =>
    exact .bind fun _ => .bind fun _ => .bind fun _ => .fetch _ _ _ _
  | exportVar => exact .bind fun _ => .effect _ _ _
  | storeExternal | setMapVar | setGlobalVar => exact .bind fun _ => .bind fun _ => .effect _ _ _
  | giveExpPoints | playSfx | displayMsg | playMovie => exact .bind fun _ => .trigger _ _
  | _ => exact .within _

end Defers

namespace Machine

variable {script : Container} {host : Host σ} {code : UInt16}

theorem execute_of_some (host : Host σ) (m : Machine) (w : World σ) {op : Opcode}
    (h : Opcode.ofCode? code = some op) :
    m.execute script host code w = finish host w (Exec.perform script op m) := by
  rw [← Defers.perform script op m w]
  simp only [execute, h]
  rcases Act.perform script host op (m, w) with ⟨_ | _, after⟩ | ⟨e, after⟩ <;> rfl

theorem execute_of_none (host : Host σ) (m : Machine) (w : World σ)
    (h : Opcode.ofCode? code = none) :
    m.execute script host code w = (.failed (.unknownOpcode m.opcode), m, w) := by
  simp only [execute, h]

/-- With any host the instruction ends so, and it leaves the world alone. -/
def Executes (script : Container) (op : Opcode) (m : Machine) (outcome : StepOutcome)
    (m' : Machine) : Prop :=
  ∀ (σ : Type) (host : Host σ) (w : World σ), m.execute script host op.code w = (outcome, m', w)

variable {op : Opcode} {m m' : Machine} {x : Exec Unit}

theorem Executes.unique {m₁ m₂ : Machine} {outcome outcome' : StepOutcome}
    (h : m.Executes script op outcome m₁) (h' : m.Executes script op outcome' m₂) :
    outcome' = outcome ∧ m₂ = m₁ := by
  have same := (h' Unit Refusing.host { host := () }).symm.trans (h Unit Refusing.host _)
  obtain ⟨houtcome, same⟩ := Prod.mk.inj same
  exact ⟨houtcome, congrArg Prod.fst same⟩

theorem executes_of_ok (h : x m = .ok () m') (hop : Exec.perform script op = .next x) :
    m.Executes script op .continuing m' := by
  intro σ host w
  rw [execute_of_some host m w op.ofCode?_code, hop]
  simp only [Exec.next, Bind.bind, EStateM.bind, h]
  rfl

theorem executes_of_error {e : Fault} (h : x m = .error e m')
    (hop : Exec.perform script op = .next x) : m.Executes script op (.failed e) m' := by
  intro σ host w
  rw [execute_of_some host m w op.ofCode?_code, hop]
  simp only [Exec.next, Bind.bind, EStateM.bind, h]
  rfl

end Machine

end ScriptMachine
