import ScriptMachine.Proofs.Machine.Calls
import ScriptMachine.Proofs.Session.Frames

/-!
# What outlasts a run

The local variables and two flags of a session outlast its runs, whatever way these end. Three
opcodes write to them and nothing else does in a run. So after any run they are what its
instructions have made of them, one after the other.
-/

namespace ScriptMachine

variable {σ : Type}

structure Memory where
  locals : Array Value
  initialized : Bool
  overrides : Bool

def Machine.memory (m : Machine) : Memory := ⟨m.locals, m.initialized, m.overrides⟩

theorem lasting_memory : Exec.Lasting Machine.memory where
  data _ _ := rfl
  calls _ _ := rfl
  frameBase _ _ := rfl
  globalsBase _ _ := rfl
  critical _ _ := rfl
  position _ _ := rfl
  opcode _ _ _ := rfl

def Memory.store (memory : Memory) (index : Int64) (v : Value) : Memory :=
  if 0 ≤ index.toInt then
    { memory with locals := memory.locals.setIfInBounds index.toInt.toNat v }
  else memory

namespace Exec

variable {m : Machine}

theorem localIndex_outside {index : Int64}
    (outside : ¬ (0 ≤ index.toInt ∧ index.toInt < m.locals.size)) :
    localIndex index m = .error (.localOutOfRange index m.locals.size) m := by
  change (if 0 ≤ index.toInt ∧ index.toInt < m.locals.size then (pure index.toInt.toNat : Exec Nat)
    else throw (.localOutOfRange index m.locals.size)) m = _
  rw [if_neg outside]
  rfl

theorem memory_setLocal (index : Int64) (v : Value) (m : Machine) :
    ((setLocal index v).left m).memory = m.memory.store index v := by
  rw [Memory.store]
  by_cases bounds : 0 ≤ index.toInt ∧ index.toInt < m.locals.size
  · have stored : setLocal index v m =
        .ok () { m with locals := m.locals.setIfInBounds index.toInt.toNat v } :=
      setLocal_eq_ok.mpr ⟨bounds, rfl⟩
    rw [left, stored, if_pos bounds.1]
    rfl
  · have refused : setLocal index v m = .error (.localOutOfRange index m.locals.size) m := by
      simp only [setLocal, Bind.bind, EStateM.bind, localIndex_outside bounds]
    -- Without a variable at the index neither side stores anything.
    have left_eq : (setLocal index v).left m = m := by rw [left, refused]
    rw [left_eq]
    split
    · rename_i positive
      have size : m.locals.size ≤ index.toInt.toNat := by omega
      exact congrArg (Memory.mk · _ _) (Array.setIfInBounds_eq_of_size_le size).symm
    · rfl

end Exec

namespace Instruction

/-- What an instruction makes of the memory, also if it fails. -/
def writes (i : Instruction) (memory : Memory) : Memory :=
  match i.opcode, i.machine.data with
  | .exitProg, _ => { memory with initialized := true }
  | .scriptOverrides, _ => { memory with overrides := true }
  | .setLocalVar, v :: .int index :: _ => memory.store index v
  | _, _ => memory

theorem writes_of_not_isLasting {i : Instruction} (passing : i.opcode.isLasting = false)
    (memory : Memory) : i.writes memory = memory := by
  obtain ⟨op, m⟩ := i
  cases op <;> first | rfl | contradiction

theorem memory_left (script : Container) (i : Instruction) :
    ((Exec.perform script i.opcode).left i.machine).memory = i.writes i.machine.memory := by
  have view := lasting_memory
  cases lasting : i.opcode.isLasting with
  | false =>
    rw [writes_of_not_isLasting lasting]
    exact Exec.keeps_perform_lasting view script lasting i.machine
  | true =>
    obtain ⟨op, m⟩ := i
    cases op with
    | scriptOverrides => rfl
    | exitProg =>
      have kept := Exec.keeps_jump view.remote script.code 0 { m with initialized := true }
      exact (congrArg Machine.memory (Exec.left_next _ _)).trans kept
    | setLocalVar =>
      obtain ⟨position, opcode, opcodeOffset, data, calls, locals⟩ := m
      match data with
      | [] | [_] => rfl
      | v :: .int index :: rest =>
        exact (congrArg Machine.memory (Exec.left_next _ _)).trans
          (Exec.memory_setLocal index v _)
      | _ :: .none :: _ | _ :: .float _ :: _ | _ :: .text _ :: _ | _ :: .object _ :: _ => rfl
    | _ => contradiction

end Instruction

def remembered (memory : Memory) (trace : List Instruction) : Memory :=
  trace.foldl (fun memory i => i.writes memory) memory

theorem Machine.memory_step (script : Container) (host : Host σ) (m : Machine) (w : World σ) :
    (m.step script host w).2.1.memory = remembered m.memory (m.instruction? script).toList := by
  cases hi : m.instruction? script with
  | none =>
    obtain ⟨_, _, _, hstep, _, _, _, rfl⟩ := step_of_none host w hi
    rw [hstep]
    rfl
  | some i =>
    obtain ⟨e, hstep⟩ := step_of_some host w hi
    obtain ⟨code, position, hmachine⟩ := machine_of_instruction? hi
    have written := i.memory_left script
    have fetched : i.machine.memory = m.memory := by rw [hmachine]; rfl
    rw [hstep]
    change _ = i.writes m.memory
    rw [← fetched, ← written, Exec.left]
    cases Exec.perform script i.opcode i.machine with
    | error fault m₁ => rfl
    | ok turn m₁ =>
      obtain ⟨_, v, _, hsettle, -⟩ := settle_cases host turn m₁ (w.note e)
      rw [finish, hsettle]
      cases v <;> rfl

theorem Progress.memory_advance (host : Host σ) (n : Nat) (p : Progress σ) :
    (p.advance host n).session.machine.memory =
      remembered p.session.machine.memory (p.trace host n) := by
  have written : Written p.session.script host (fun m (_ : World σ) => m.memory)
      (fun memory i => i.writes memory) :=
    ⟨Machine.memory_step p.session.script host, fun _ _ _ => rfl, fun _ _ _ _ => rfl⟩
  exact written.advance rfl n

/-! What a command itself does to the memory, before its run and after it. -/

def Command.opens : Command → Memory → Memory
  | .setUp, memory => memory
  | .call _ _, memory => { memory with overrides := false }

def Command.closes : Command → Memory → Memory
  | .setUp, memory => { memory with initialized := true }
  | .call _ _, memory => memory

theorem Session.memory_runFrom (s : Session) (w : World σ) (address : Nat)
    (prepare : Machine → Machine) (h : ∀ m, (prepare m).memory = m.memory) :
    (s.runFrom w address prepare).session.machine.memory = s.machine.memory := by
  rw [runFrom]
  split
  · exact h _
  · rfl

theorem Session.memory_conclude (command : Command) (outcome : Outcome) (s : Session)
    (w : World σ) :
    (s.conclude command outcome w).2.1.machine.memory = command.closes s.machine.memory := by
  rw [machine_conclude]
  cases command <;> rfl

theorem Session.memory_started {command : Command} {s : Session} {w : World σ} {p : Progress σ}
    (h : s.begin command w = .started p) :
    p.session.machine.memory = command.opens s.machine.memory := by
  have begun := beginning command s w
  rw [h] at begun
  cases begun with
  | setUp fresh => exact s.memory_runFrom _ 0 id fun _ => rfl
  | call procedure context p hprocedure =>
    exact (s.told context).memory_runFrom _ p.body.toNat prepareCall fun _ => rfl

theorem Session.memory_obey {host : Host σ} {fuel : Nat} {command : Command} {s s' : Session}
    {w w' : World σ} {outcome : Outcome} (h : s.obey host fuel command w = some (outcome, s', w')) :
    s'.machine.memory = command.closes
      (remembered (command.opens s.machine.memory) (s.performed host fuel command w)) := by
  rcases obey_cases h with hbegin | ⟨p, s₁, w₁, hbegin, hp, hconclude⟩
  · have begun := beginning command s w
    rw [performed, hbegin]
    rw [hbegin] at begun
    cases begun with
    | alreadyInitialized initialized =>
      rw [Machine.memory, initialized]
      rfl
    | noSuchProcedure procedure context missing => rfl
  · have ran := p.memory_advance host fuel
    have concluded := s₁.memory_conclude command outcome w₁
    rw [performed, hbegin, ← memory_started hbegin, ← ran, hp]
    rwa [hconclude] at concluded

/-! The two flags. -/

theorem Memory.store_flags (memory : Memory) (index : Int64) (v : Value) :
    (memory.store index v).initialized = memory.initialized ∧
      (memory.store index v).overrides = memory.overrides := by
  rw [store]
  split <;> exact ⟨rfl, rfl⟩

theorem Instruction.writes_flags (i : Instruction) (memory : Memory) :
    (i.writes memory).initialized = (memory.initialized || i.opcode == .exitProg) ∧
      (i.writes memory).overrides = (memory.overrides || i.opcode == .scriptOverrides) := by
  obtain ⟨op, m⟩ := i
  by_cases exit : op = .exitProg
  · subst exit
    exact ⟨(Bool.or_true _).symm, (Bool.or_false _).symm⟩
  by_cases overriding : op = .scriptOverrides
  · subst overriding
    exact ⟨(Bool.or_false _).symm, (Bool.or_true _).symm⟩
  rw [beq_false_of_ne exit, beq_false_of_ne overriding, Bool.or_false, Bool.or_false, writes]
  split
  · exact absurd ‹_› exit
  · exact absurd ‹_› overriding
  · exact memory.store_flags _ _
  · exact ⟨rfl, rfl⟩

theorem flag_remembered {flag : Memory → Bool} {op : Opcode}
    (written : ∀ (i : Instruction) memory, flag (i.writes memory) = (flag memory || i.opcode == op))
    (memory : Memory) (trace : List Instruction) :
    flag (remembered memory trace) = (flag memory || trace.any (·.opcode == op)) := by
  induction trace generalizing memory with
  | nil => exact (Bool.or_false _).symm
  | cons i rest ih =>
    change flag (remembered (i.writes memory) rest) = _
    rw [ih, written, List.any_cons, Bool.or_assoc]

theorem initialized_remembered (memory : Memory) (trace : List Instruction) :
    (remembered memory trace).initialized =
      (memory.initialized || trace.any (·.opcode == .exitProg)) :=
  flag_remembered (fun i memory => (i.writes_flags memory).1) memory trace

theorem overrides_remembered (memory : Memory) (trace : List Instruction) :
    (remembered memory trace).overrides =
      (memory.overrides || trace.any (·.opcode == .scriptOverrides)) :=
  flag_remembered (fun i memory => (i.writes_flags memory).2) memory trace

end ScriptMachine
