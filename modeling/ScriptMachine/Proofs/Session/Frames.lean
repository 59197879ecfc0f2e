import ScriptMachine.Proofs.Session.Containment

/-!
# What calls leave of their frames

A fault and a halt clear the call stack and the frame registers, a completed run does not.
After a completed call they are clear just if the run itself has popped all that was pushed
and the call's own return address, and has set the registers back. Startup code that ends
in a call's procedure, or the end of the code, completes a run without that.
-/

namespace ScriptMachine

variable {σ : Type}

def Opcode.pushesCall : Opcode → Bool
  | .call | .pushBase | .dataToReturn => true
  | _ => false

def Opcode.popsCall : Opcode → Bool
  | .ret | .popBase | .returnToData => true
  | _ => false

theorem Opcode.isPlain_calls {op : Opcode} (plain : op.isPlain = true) :
    op.pushesCall = false ∧ op.popsCall = false := by
  cases op <;> first | exact ⟨rfl, rfl⟩ | contradiction

namespace Instruction

def base? (i : Instruction) : Option Nat :=
  match i.opcode, i.machine.data, i.machine.calls with
  | .pushBase, .int n :: below, _ => some (below.length - n.toInt.toNat)
  | .popBase, _, .int base :: _ => some base.toInt.toNat
  | _, _, _ => none

def critical? (i : Instruction) : Option Bool :=
  match i.opcode with
  | .criticalStart => some true
  | .criticalDone => some false
  | _ => none

end Instruction

theorem Opcode.isPlain_registers {op : Opcode} (plain : op.isPlain = true) (m : Machine) :
    (Instruction.mk op m).base? = none ∧ (Instruction.mk op m).critical? = none := by
  cases op <;> first | exact ⟨rfl, rfl⟩ | contradiction

theorem Framed.registers {m m' : Machine} {op : Opcode} (h : Framed m op m') :
    m'.calls.length + (if op.popsCall then 1 else 0) =
        m.calls.length + (if op.pushesCall then 1 else 0) ∧
      m'.frameBase = (Instruction.mk op m).base?.getD m.frameBase ∧
      m'.critical = (Instruction.mk op m).critical?.getD m.critical := by
  cases h with
  | plain plain =>
    obtain ⟨hpush, hpop⟩ := Opcode.isPlain_calls plain
    obtain ⟨hbase, hcritical⟩ := Opcode.isPlain_registers plain m
    rw [hpush, hpop, hbase, hcritical]
    exact ⟨rfl, rfl, rfl⟩
  | returnToData v calls hcalls => exact ⟨by rw [hcalls]; rfl, rfl, rfl⟩
  | ret address calls hcalls => exact ⟨by rw [hcalls]; rfl, rfl, rfl⟩
  | pushBase n data hdata positive enough =>
    refine ⟨rfl, ?_, rfl⟩
    simp only [Instruction.base?, hdata, List.length_cons, Option.getD_some]
    omega
  | popBase base calls hcalls positive =>
    refine ⟨by rw [hcalls]; rfl, ?_, rfl⟩
    simp only [Instruction.base?, hcalls, Option.getD_some]
  | dataToReturn | call | criticalStart | criticalDone | exitProg | scriptOverrides | setGlobal
  | setLocalVar => exact ⟨rfl, rfl, rfl⟩

def frameBaseAfter (base : Nat) (trace : List Instruction) : Nat :=
  trace.foldl (fun base i => i.base?.getD base) base

def criticalAfter (critical : Bool) (trace : List Instruction) : Bool :=
  trace.foldl (fun critical i => i.critical?.getD critical) critical

theorem Path.registers {script : Container} {host : Host σ} {m m' : Machine} {w w' : World σ}
    {trace : List Instruction} (path : Path script host m w trace m' w') :
    m'.calls.length + trace.countP (·.opcode.popsCall) =
        m.calls.length + trace.countP (·.opcode.pushesCall) ∧
      m'.frameBase = frameBaseAfter m.frameBase trace ∧
      m'.critical = criticalAfter m.critical trace := by
  induction path with
  | nil m w => exact ⟨rfl, rfl, rfl⟩
  | @cons m m₁ m' w w₁ w' i rest hi hstep _ ih =>
    obtain ⟨calls, base, critical⟩ := ih
    obtain ⟨_, m₂, hi', framed, data, position, rfl⟩ := Machine.step_framed hstep nofun
    rw [hi] at hi'
    cases hi'
    obtain ⟨code, offset, hmachine⟩ := Machine.machine_of_instruction? hi
    obtain ⟨calls₁, base₁, critical₁⟩ := framed.registers
    have hcalls : i.machine.calls = m.calls := by rw [hmachine]; rfl
    have hbase : i.machine.frameBase = m.frameBase := by rw [hmachine]; rfl
    have hcritical : i.machine.critical = m.critical := by rw [hmachine]; rfl
    rw [hcalls] at calls₁
    rw [hbase] at base₁
    rw [hcritical] at critical₁
    refine ⟨?_, ?_, ?_⟩
    · rw [List.countP_cons, List.countP_cons]
      change _ = m₂.calls.length + _ at calls
      omega
    · rw [base, frameBaseAfter, frameBaseAfter, List.foldl_cons, ← base₁]
    · rw [critical, criticalAfter, criticalAfter, List.foldl_cons, ← critical₁]

def Session.performed (host : Host σ) (fuel : Nat) (command : Command) (s : Session)
    (w : World σ) : List Instruction :=
  match s.begin command w with
  | .declined .. => []
  | .started p => p.trace host fuel

/-- Instructions of a call that take away what the call and they themselves pushed on a call
stack, and all that was there before, and leave the frame registers clear. -/
structure Balanced (m : Machine) (trace : List Instruction) : Prop where
  calls : trace.countP (·.opcode.popsCall) =
    m.calls.length + 1 + trace.countP (·.opcode.pushesCall)
  frameBase : frameBaseAfter m.frameBase trace = 0
  critical : criticalAfter m.critical trace = false

theorem unframed_completed {host : Host σ} {fuel : Nat} {m : Machine} {p : Progress σ}
    {s : Session} {w : World σ} (h : p.advance host fuel = .ended .completed s w)
    (hcalls : p.session.machine.calls = .int 0 :: m.calls)
    (hbase : p.session.machine.frameBase = m.frameBase)
    (hcritical : p.session.machine.critical = m.critical) :
    s.machine.Unframed ↔ Balanced m (p.trace host fuel) := by
  have unstopped : (p.advance host fuel).Unstopped := by
    rw [h]
    trivial
  obtain ⟨calls, base, critical⟩ := (Progress.path_of_unstopped unstopped).registers
  rw [h] at calls base critical
  change s.machine.calls.length + _ = _ at calls
  change s.machine.frameBase = _ at base
  change s.machine.critical = _ at critical
  rw [hcalls, List.length_cons] at calls
  rw [hbase] at base
  rw [hcritical] at critical
  constructor
  · intro unframed
    rw [unframed.calls, List.length_nil] at calls
    refine ⟨by omega, ?_, ?_⟩
    · rw [← base, unframed.frameBase]
    · rw [← critical, unframed.critical]
  · intro balanced
    have depth := balanced.calls
    refine ⟨List.eq_nil_of_length_eq_zero (by omega), ?_, ?_⟩
    · rw [base, balanced.frameBase]
    · rw [critical, balanced.critical]

theorem called_registers {host : Host σ} {fuel address : Nat} {context : CallContext}
    {s s' : Session} {w w' : World σ}
    (h : ((s.told context).runFrom w address Session.prepareCall).advance host fuel =
      .ended .completed s' w') :
    let m := ((s.told context).runFrom w address Session.prepareCall).session.machine
    m.calls = .int 0 :: s.machine.calls ∧ m.frameBase = s.machine.frameBase ∧
      m.critical = s.machine.critical := by
  rw [Session.runFrom] at h ⊢
  split at h
  · rename_i inside
    rw [if_pos inside]
    exact ⟨rfl, rfl, rfl⟩
  · -- A body outside the code is a fault before the first tick.
    rw [Run.abandon, Progress.advance_ended] at h
    cases h

/-- When exactly a call that ran code leaves no frame behind, from whatever session and with
whatever host it was made: always after a fault or a halt, and after a completed run just if
its instructions are balanced. -/
theorem unframed_iff_balanced {host : Host σ} {fuel : Nat} {procedure : String}
    {context : CallContext} {s s' : Session} {w w' : World σ} {outcome : Outcome}
    (called : s.obey host fuel (.call procedure context) w = some (outcome, s', w'))
    (ran : outcome ≠ .noSuchProcedure) :
    s'.machine.Unframed ↔
      (outcome = .completed →
        Balanced s.machine (s.performed host fuel (.call procedure context) w)) := by
  have ended := Session.obey_eq_some_iff.mp called
  have begun := s.beginning (.call procedure context) w
  rcases s.attempt_cases host fuel (.call procedure context) w with
    ⟨outcome₁, s₁, w₁, hbegin, hattempt⟩ | ⟨p, hbegin, ⟨r, hp, hattempt⟩ |
      ⟨outcome₁, s₁, w₁, hp, hattempt⟩⟩
  · rw [hbegin] at begun
    rw [hattempt] at ended
    cases ended
    cases begun
    exact absurd rfl ran
  · rw [hattempt] at ended
    contradiction
  · rw [hattempt] at ended
    cases ended
    rw [Session.unframed_conclude, Session.performed, hbegin]
    have contained := Progress.contained_advance host (Session.contained_started hbegin) fuel
    rw [hp] at contained
    cases outcome with
    | completed =>
      rw [hbegin] at begun
      cases begun with
      | call procedure context p' hprocedure =>
        obtain ⟨hcalls, hbase, hcritical⟩ := called_registers hp
        rw [unframed_completed hp hcalls hbase hcritical]
        exact ⟨fun balanced _ => balanced, fun balanced => balanced rfl⟩
    | halted => exact ⟨fun _ => nofun, fun _ => contained⟩
    | aborted fault => exact ⟨fun _ => nofun, fun _ => contained.2.2⟩
    | noSuchProcedure | alreadyInitialized => exact contained.elim

def leavingScript : Container where
  name := "leave"
  code :=
    let body := Block.ofSteps
      [.plain .dup, .plain .pushBase, .plain .criticalStart, .plain .exitProg]
    (Draft.ofSteps [.procedure { name := "leave", body }]).build.toArray
  procedures := #[⟨"leave", ⟨0⟩, 0, 0, 90, 0⟩]
  identifiers := [⟨6, "leave"⟩]
  strings := []

theorem leave_not_unframed :
    Container.decode "leave" leavingScript.code = .ok leavingScript ∧
    ∃ s' w', (Session.new leavingScript none {}).obey Refusing.host 4 (.call "leave" {})
        { host := () } = some (.completed, s', w') ∧
      s'.machine.calls.length = 2 ∧ s'.machine.frameBase = 1 ∧ s'.machine.critical = true ∧
      ¬ s'.machine.Unframed := by
  have left : ((Session.new leavingScript none {}).obey Refusing.host 4 (.call "leave" {})
      { host := () }).map (fun r => (r.1, r.2.1.machine.calls.length, r.2.1.machine.frameBase,
        r.2.1.machine.critical)) = some (.completed, 2, 1, true) := by decide +kernel
  obtain ⟨⟨outcome, s', w'⟩, hobey, hleft⟩ := Option.map_eq_some_iff.mp left
  obtain ⟨rfl, hcalls, hbase, hcritical⟩ : outcome = .completed ∧
      s'.machine.calls.length = 2 ∧ s'.machine.frameBase = 1 ∧ s'.machine.critical = true := by
    simpa using hleft
  refine ⟨by decide +kernel, s', w', hobey, hcalls, hbase, hcritical, ?_⟩
  intro unframed
  rw [unframed.frameBase] at hbase
  exact Nat.zero_ne_one hbase

theorem leave_unframed_iff_balanced :
    Container.decode "leave" leavingScript.code = .ok leavingScript ∧
    ∃ s' w', (Session.new leavingScript none {}).obey Refusing.host 4 (.call "leave" {})
        { host := () } = some (.completed, s', w') ∧
      (s'.machine.Unframed ↔ (Outcome.completed = .completed →
        Balanced (Session.new leavingScript none {}).machine
          ((Session.new leavingScript none {}).performed Refusing.host 4 (.call "leave" {})
            { host := () }))) := by
  have outcome : ((Session.new leavingScript none {}).obey Refusing.host 4 (.call "leave" {})
      { host := () }).map (·.1) = some .completed := by decide +kernel
  obtain ⟨⟨_, s', w'⟩, called, rfl⟩ := Option.map_eq_some_iff.mp outcome
  exact ⟨by decide +kernel, s', w', called, unframed_iff_balanced called nofun⟩

end ScriptMachine
