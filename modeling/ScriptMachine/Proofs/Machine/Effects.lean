import ScriptMachine.Container.Build
import ScriptMachine.Host.Refusing
import ScriptMachine.Proofs.Machine.Operands
import ScriptMachine.Proofs.Machine.Positions

/-!
# The effect of one instruction

Every register of the machine is changed by a few opcodes only. What a step does that does
not fail is told register by register: the data stack, the call stack with the frame base, and
the position each by a relation with a case for every way an opcode has with it.
-/

namespace ScriptMachine

inductive Reshapes (frameBase globalsBase : Nat) : Opcode → Stack → Stack → Prop where
  | regular {op : Opcode} (taken left below : Stack) : op.isRegular = true →
      taken.length = op.arity.1 → left.length = op.arity.2 →
      Reshapes frameBase globalsBase op (taken ++ below) (left ++ below)
  | ret (result : Value) (count : Int64) (arguments below : Stack) :
      count.toInt = arguments.length →
      Reshapes frameBase globalsBase .ret (result :: .int count :: (arguments ++ below))
        (result :: below)
  | store (offset : Int64) (v : Value) (below : Stack) : 0 ≤ offset.toInt →
      frameBase + offset.toInt.toNat < below.length →
      Reshapes frameBase globalsBase .store (.int offset :: v :: below)
        (below.bottomUp.set (frameBase + offset.toInt.toNat) v).reverse
  | storeGlobal (offset : Int64) (v : Value) (below : Stack) : 0 ≤ offset.toInt →
      globalsBase + offset.toInt.toNat < below.length →
      Reshapes frameBase globalsBase .storeGlobal (.int offset :: v :: below)
        (below.bottomUp.set (globalsBase + offset.toInt.toNat) v).reverse
  | popToBase (data : Stack) :
      Reshapes frameBase globalsBase .popToBase data (data.truncate frameBase)

def Opcode.usesCalls : Opcode → Bool
  | .call | .pushBase | .dataToReturn | .ret | .popBase | .returnToData => true
  | _ => false

/-- What opcodes make of a call stack and the frame base, where `next` is the address behind
them and `data` the data stack. -/
inductive Reframes (next : Nat) (data : Stack) : Opcode → Stack → Nat → Stack → Nat → Prop where
  | keep {op : Opcode} (calls : Stack) (base : Nat) : op.usesCalls = false →
      Reframes next data op calls base calls base
  | call (calls : Stack) (base : Nat) :
      Reframes next data .call calls base (.ofNat next :: calls) base
  | dataToReturn (v : Value) (below calls : Stack) (base : Nat) : data = v :: below →
      Reframes next data .dataToReturn calls base (v :: calls) base
  | pushBase (count : Int64) (below calls : Stack) (base : Nat) : data = .int count :: below →
      0 ≤ count.toInt → count.toInt ≤ below.length →
      Reframes next data .pushBase calls base (.ofNat base :: calls)
        (below.length - count.toInt.toNat)
  | ret (address : Int64) (calls : Stack) (base : Nat) :
      Reframes next data .ret (.int address :: calls) base calls base
  | returnToData (v : Value) (calls : Stack) (base : Nat) :
      Reframes next data .returnToData (v :: calls) base calls base
  | popBase (saved : Int64) (calls : Stack) (base : Nat) : 0 ≤ saved.toInt →
      Reframes next data .popBase (.int saved :: calls) base calls saved.toInt.toNat

structure Effect (script : Container) (op : Opcode) (m m' : Machine) : Prop where
  data : Reshapes m.frameBase m.globalsBase op m.data m'.data
  frames : Reframes (m.position + 2) m.data op m.calls m.frameBase m'.calls m'.frameBase
  position : Leads script (m.position + 2) m.data m.calls op m'.position
  globalsBase : m'.globalsBase = if op = .setGlobal then m.data.length else m.globalsBase
  locals : op ≠ .setLocalVar → m'.locals = m.locals
  setLocalVar : op = .setLocalVar → ∃ v index below, m.data = v :: .int index :: below ∧
    (0 ≤ index.toInt ∧ index.toInt < m.locals.size) ∧
    m'.locals = m.locals.setIfInBounds index.toInt.toNat v
  initialized : m'.initialized = if op = .exitProg then true else m.initialized
  overrides : m'.overrides = if op = .scriptOverrides then true else m.overrides
  critical : m'.critical =
    if op = .criticalStart then true else if op = .criticalDone then false else m.critical
  owner : m'.owner = m.owner
  context : m'.context = m.context
  opcode : m'.opcode = op.code
  opcodeOffset : m'.opcodeOffset = m.position

theorem Opcode.usesCalls_of_isPlain {op : Opcode} (plain : op.isPlain = true) :
    op.usesCalls = false := by
  cases op <;> first | rfl | contradiction

theorem Framed.reframes {m m' : Machine} {op : Opcode} (h : Framed m op m') :
    Reframes m.position m.data op m.calls m.frameBase m'.calls m'.frameBase := by
  cases h with
  | plain plain => exact .keep _ _ (Opcode.usesCalls_of_isPlain plain)
  | criticalStart | criticalDone | exitProg | scriptOverrides | setGlobal | setLocalVar =>
    exact .keep _ _ rfl
  | call => exact .call _ _
  | dataToReturn v data hdata => exact .dataToReturn v data _ _ hdata
  | pushBase n data hdata positive enough =>
    rw [hdata, List.length_cons] at enough ⊢
    rw [Nat.add_sub_add_right]
    exact .pushBase n data _ _ rfl positive (by omega)
  | ret address calls hcalls =>
    rw [hcalls]
    exact .ret address calls _
  | returnToData v calls hcalls =>
    rw [hcalls]
    exact .returnToData v calls _
  | popBase base calls hcalls positive =>
    rw [hcalls]
    exact .popBase base calls _ positive

theorem Framed.locals {m m' : Machine} {op : Opcode} (h : Framed m op m') :
    (op ≠ .setLocalVar → m'.locals = m.locals) ∧
    (op = .setLocalVar → ∃ v index below, m.data = v :: .int index :: below ∧
      (0 ≤ index.toInt ∧ index.toInt < m.locals.size) ∧
      m'.locals = m.locals.setIfInBounds index.toInt.toNat v) := by
  cases h with
  | setLocalVar v index data hdata bounds =>
    exact ⟨fun other => absurd rfl other, fun _ => ⟨v, index, data, hdata, bounds, rfl⟩⟩
  | plain plain =>
    refine ⟨fun _ => rfl, ?_⟩
    rintro rfl
    contradiction
  | _ => exact ⟨fun _ => rfl, nofun⟩

theorem Framed.flags {m m' : Machine} {op : Opcode} (h : Framed m op m') :
    m'.globalsBase = (if op = .setGlobal then m.data.length else m.globalsBase) ∧
    m'.initialized = (if op = .exitProg then true else m.initialized) ∧
    m'.overrides = (if op = .scriptOverrides then true else m.overrides) ∧
    m'.critical =
      if op = .criticalStart then true else if op = .criticalDone then false else m.critical := by
  cases h with
  | plain plain =>
    have apart {other : Opcode} (special : other.isPlain = false) : op ≠ other := by
      rintro rfl
      rw [plain] at special
      contradiction
    refine ⟨(if_neg (apart rfl)).symm, (if_neg (apart rfl)).symm, (if_neg (apart rfl)).symm, ?_⟩
    rw [if_neg (apart rfl), if_neg (apart rfl)]
  | _ => simp

theorem Framed.origin {m m' : Machine} {op : Opcode} (h : Framed m op m') :
    m'.opcode = m.opcode ∧ m'.opcodeOffset = m.opcodeOffset := by
  cases h <;> exact ⟨rfl, rfl⟩

namespace Machine

variable {σ : Type} {script : Container} {host : Host σ} {m m' : Machine} {w w' : World σ}
  {outcome : StepOutcome} {i : Instruction}

theorem fetched_of_instruction? (h : m.instruction? script = some i) :
    ∃ r, Reader.uint16 (m.reader script.code) = .ok i.opcode.code r ∧
      i.machine = m.fetched i.opcode.code (m.position + 2) := by
  obtain ⟨code, r, hfetch, hop, hmachine⟩ := instruction?_eq_some.mp h
  obtain rfl := Opcode.code_of_ofCode? hop
  rw [Reader.position_of_uint16 hfetch] at hmachine
  exact ⟨r, hfetch, hmachine⟩

theorem step_reshapes (hi : m.instruction? script = some i)
    (h : m.step script host w = (outcome, m', w')) (succeeds : ∀ fault, outcome ≠ .failed fault) :
    Reshapes i.machine.frameBase i.machine.globalsBase i.opcode i.machine.data m'.data := by
  obtain ⟨op, m₀⟩ := i
  cases regular : op.isRegular with
  | true =>
    obtain ⟨pushed, hlength, enough, hdata⟩ := step_data hi h succeeds
    obtain ⟨htaken, hstore⟩ := Instruction.taken_of_isRegular regular m₀
    rw [← data_of_instruction? hi, htaken] at enough
    rw [hdata, Instruction.beneath, hstore, htaken]
    have split : Reshapes m₀.frameBase m₀.globalsBase op
        (m₀.data.take op.arity.1 ++ m₀.data.drop op.arity.1) (pushed ++ m₀.data.drop op.arity.1) :=
      .regular _ _ _ regular (List.length_take_of_le enough) hlength
    rwa [List.take_append_drop] at split
  | false =>
    obtain ⟨j, e, turn, m₁, hj, hperform, hsettle⟩ := step_performed h succeeds
    obtain rfl := Option.some_inj.mp (hi.symm.trans hj)
    -- None of these four opcodes asks for anything, so the step leaves what they do.
    cases op with
    | ret =>
      obtain ⟨rfl, done⟩ := Exec.next_eq_ok.mp hperform
      obtain ⟨result, count, rest, address, calls, ⟨hdata, positive, enough⟩, -, rfl⟩ :=
        Exec.ret_eq_ok.mp done
      cases hsettle
      have returned : Reshapes m₀.frameBase m₀.globalsBase .ret
          (result :: .int count :: (rest.take count.toInt.toNat ++ rest.drop count.toInt.toNat))
          (result :: rest.drop count.toInt.toNat) := by
        apply Reshapes.ret
        rw [List.length_take_of_le enough]
        omega
      rw [List.take_append_drop, ← hdata] at returned
      exact returned
    | popToBase =>
      obtain ⟨rfl, done⟩ := Exec.next_eq_ok.mp hperform
      obtain rfl := modify_eq_ok.mp done
      cases hsettle
      exact .popToBase m₀.data
    | store =>
      obtain ⟨rfl, done⟩ := Exec.next_eq_ok.mp hperform
      obtain ⟨offset, v, rest, hdata, ⟨positive, -, inside⟩, rfl⟩ := Exec.storeSlot_eq_ok.mp done
      cases hsettle
      rw [hdata]
      exact .store offset v rest positive inside
    | storeGlobal =>
      obtain ⟨rfl, done⟩ := Exec.next_eq_ok.mp hperform
      obtain ⟨offset, v, rest, hdata, ⟨positive, -, inside⟩, rfl⟩ := Exec.storeSlot_eq_ok.mp done
      cases hsettle
      rw [hdata]
      exact .storeGlobal offset v rest positive inside
    | _ => contradiction

theorem step_leads (hi : m.instruction? script = some i)
    (h : m.step script host w = (outcome, m', w')) (succeeds : ∀ fault, outcome ≠ .failed fault) :
    Leads script i.machine.position i.machine.data i.machine.calls i.opcode m'.position := by
  obtain ⟨j, e, turn, m₁, hj, hperform, hsettle⟩ := step_performed h succeeds
  obtain rfl := Option.some_inj.mp (hi.symm.trans hj)
  have leads := Exec.leads_perform hperform
  obtain ⟨_, v, _, hsettle', -⟩ := settle_cases host turn m₁ (w.note e)
  rw [hsettle'] at hsettle
  cases hsettle
  cases v <;> exact leads

end Machine

/-- One step that does not fail has fetched a defined opcode and has its effect: whatever the
machine, the script and the host, nothing else has changed. -/
theorem step_effect {σ : Type} {script : Container} {host : Host σ} {m m' : Machine}
    {w w' : World σ} {outcome : StepOutcome} (h : m.step script host w = (outcome, m', w'))
    (succeeds : ∀ fault, outcome ≠ .failed fault) :
    ∃ op r, Reader.uint16 (m.reader script.code) = .ok op.code r ∧ Effect script op m m' := by
  obtain ⟨i, m₁, hi, framed, data, position, rfl⟩ := Machine.step_framed h succeeds
  have reshapes := Machine.step_reshapes hi h succeeds
  have leads := Machine.step_leads hi h succeeds
  have reframes := framed.reframes
  obtain ⟨r, hfetch, hmachine⟩ := Machine.fetched_of_instruction? hi
  obtain ⟨op, m₀⟩ := i
  obtain rfl : m₀ = m.fetched op.code (m.position + 2) := hmachine
  obtain ⟨others, stored⟩ := framed.locals
  obtain ⟨globalsBase, initialized, overrides, critical⟩ := framed.flags
  have setting := Machine.setting_step script host m w
  rw [h] at setting
  obtain ⟨owner, context⟩ := Prod.mk.inj setting
  obtain ⟨opcode, opcodeOffset⟩ := framed.origin
  exact ⟨op, r, hfetch, reshapes, reframes, leads, globalsBase, others, stored, initialized,
    overrides, critical, owner, context, opcode, opcodeOffset⟩

def notingScript : Container where
  name := "note"
  code := { header := some (([.setLocalVar, .exit].foldl Block.op {}).assemble 0) : Draft }
    |>.build.toArray
  procedures := #[]
  identifiers := []
  strings := []

theorem note_effect :
    Container.decode "note" notingScript.code = .ok notingScript ∧
    let m : Machine := { data := [.int 7, .int 1, .int 5], locals := #[.int 0, .int 0] }
    ∃ m' w', m.step notingScript Refusing.host { host := () } = (.continuing, m', w') ∧
      Effect notingScript .setLocalVar m m' := by
  refine ⟨by decide +kernel, ?_⟩
  intro m
  have outcome : (m.step notingScript Refusing.host { host := () }).1 = .continuing := by
    decide +kernel
  have stores : (m.instruction? notingScript).map (·.opcode) = some .setLocalVar := by
    decide +kernel
  generalize hstep : m.step notingScript Refusing.host { host := () } = after at outcome
  obtain ⟨_, m', w'⟩ := after
  obtain rfl := outcome
  obtain ⟨op, r, hfetch, effect⟩ := step_effect hstep nofun
  obtain ⟨i, hi, stores⟩ := Option.map_eq_some_iff.mp stores
  obtain ⟨r', hfetch', -⟩ := Machine.fetched_of_instruction? hi
  rw [hfetch] at hfetch'
  have code : op.code = i.opcode.code := (EStateM.Result.ok.inj hfetch').1
  have same := Opcode.ofCode?_code op
  rw [code, Opcode.ofCode?_code, stores] at same
  cases same
  exact ⟨m', w', rfl, effect⟩

end ScriptMachine
