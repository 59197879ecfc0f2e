import ScriptMachine.Proofs.Code.Reading
import ScriptMachine.Proofs.Machine.Frames

/-!
# One step of the machine

A step that does not fail has fetched a defined opcode, performed it and received at most
one value. So the fetched instruction says what the step did beside its work on the data
stack and the position.
-/

namespace ScriptMachine

structure Instruction where
  opcode : Opcode
  machine : Machine

theorem Reader.position_of_uint16 {r r' : Reader} {n : UInt16} (h : uint16 r = .ok n r') :
    r'.position = r.position + 2 := by
  rcases Nat.lt_or_ge r.remaining 2 with short | fits
  · rw [uint16, number_of_lt short] at h
    contradiction
  · rw [uint16, number_of_le fits] at h
    cases h
    rfl

namespace Machine

open Exec

variable {σ : Type} {script : Container} {host : Host σ} {m m' : Machine} {w w' : World σ}

def fetched (m : Machine) (code : UInt16) (position : Nat) : Machine :=
  { m with position, opcode := code, opcodeOffset := m.position }

def instruction? (script : Container) (m : Machine) : Option Instruction :=
  match Reader.uint16 (m.reader script.code) with
  | .error .. => none
  | .ok code r => (Opcode.ofCode? code).map fun op => ⟨op, m.fetched code r.position⟩

theorem instruction?_eq_some {i : Instruction} : m.instruction? script = some i ↔
    ∃ code r, Reader.uint16 (m.reader script.code) = .ok code r ∧
      Opcode.ofCode? code = some i.opcode ∧ i.machine = m.fetched code r.position := by
  rw [instruction?]
  cases Reader.uint16 (m.reader script.code) with
  | error e r => simp
  | ok code r =>
    obtain ⟨op, machine⟩ := i
    simp only [Option.map_eq_some_iff, Instruction.mk.injEq]
    constructor
    · rintro ⟨_, hop, rfl, rfl⟩
      exact ⟨code, r, rfl, hop, rfl⟩
    · rintro ⟨_, _, ⟨⟩, hop, rfl⟩
      exact ⟨op, hop, rfl, rfl⟩

theorem step_of_some (host : Host σ) (w : World σ) {i : Instruction}
    (h : m.instruction? script = some i) :
    ∃ e, m.step script host w = finish host (w.note e) (perform script i.opcode i.machine) := by
  obtain ⟨code, r, hfetch, hop, hmachine⟩ := instruction?_eq_some.mp h
  refine ⟨.executing m.position code, ?_⟩
  rw [hmachine]
  simp only [step, hfetch]
  exact execute_of_some host _ _ hop

def Alike (m m' : Machine) : Prop :=
  ∃ position opcode opcodeOffset, m' = { m with position, opcode, opcodeOffset }

theorem alike_refl (m : Machine) : Alike m m := ⟨m.position, m.opcode, m.opcodeOffset, rfl⟩

theorem step_of_none (host : Host σ) (w : World σ) (h : m.instruction? script = none) :
    ∃ fault m' w', m.step script host w = (.failed fault, m', w') ∧ Alike m m' := by
  rw [instruction?] at h
  cases hfetch : Reader.uint16 (m.reader script.code) with
  | error e r =>
    refine ⟨.addressOutOfRange (.ofNat e.offset), { m with position := r.position }, w, ?_,
      r.position, m.opcode, m.opcodeOffset, rfl⟩
    simp only [step, hfetch]
  | ok code r =>
    rw [hfetch] at h
    have hop := Option.map_eq_none_iff.mp h
    refine ⟨.unknownOpcode code, m.fetched code r.position, w.note (.executing m.position code),
      ?_, r.position, code, m.position, rfl⟩
    simp only [step, hfetch]
    exact execute_of_none host _ _ hop

theorem beside_receive (m : Machine) (v : Option Value) : Beside m (m.receive v) := by
  cases v with
  | none => exact .refl m
  | some v => exact ⟨v :: m.data, m.position, rfl⟩

theorem settle_cases (host : Host σ) (turn : Turn) (m : Machine) (w : World σ) :
    ∃ outcome v w', m.settle host turn w = (outcome, m.receive v, w') ∧
      ∀ fault, outcome ≠ .failed fault := by
  cases turn with
  | next => exact ⟨.continuing, none, w, rfl, nofun⟩
  | entered p => exact ⟨.continuing, none, _, rfl, nofun⟩
  | halt => exact ⟨.halted, none, w, rfl, nofun⟩
  | draw low high => exact ⟨.continuing, some _, _, rfl, nofun⟩
  | ask q => exact ⟨.continuing, _, _, rfl, nofun⟩

/-- An instruction that fails does so in the work it performs. What comes of the work cannot
fail. -/
theorem execute_failed {op : Opcode} {fault : Fault}
    (h : m.execute script host op.code w = (.failed fault, m', w')) :
    perform script op m = .error fault m' := by
  rw [execute_of_some host m w op.ofCode?_code] at h
  cases hperform : perform script op m with
  | error e m₁ =>
    rw [hperform] at h
    cases h
    rfl
  | ok turn m₁ =>
    obtain ⟨outcome, v, _, hsettle, going⟩ := settle_cases host turn m₁ w
    rw [hperform, finish, hsettle] at h
    cases h
    exact absurd rfl (going fault)

theorem execute_failed_iff {op : Opcode} {fault : Fault} :
    (m.execute script host op.code w).1 = .failed fault ↔
      ∃ m', perform script op m = .error fault m' := by
  constructor
  · intro h
    exact ⟨_, execute_failed (Prod.ext h rfl)⟩
  · rintro ⟨m', hperform⟩
    rw [execute_of_some host m w op.ofCode?_code, hperform, finish]

theorem step_performed {outcome : StepOutcome} (h : m.step script host w = (outcome, m', w'))
    (succeeds : ∀ fault, outcome ≠ .failed fault) :
    ∃ i e turn m₁, m.instruction? script = some i ∧
      perform script i.opcode i.machine = .ok turn m₁ ∧
      m₁.settle host turn (w.note e) = (outcome, m', w') := by
  cases hi : m.instruction? script with
  | none =>
    obtain ⟨fault, _, _, hstep, -⟩ := step_of_none host w hi
    rw [hstep] at h
    cases h
    exact absurd rfl (succeeds fault)
  | some i =>
    obtain ⟨e, hstep⟩ := step_of_some host w hi
    rw [hstep] at h
    cases hperform : perform script i.opcode i.machine with
    | error fault m₁ =>
      rw [hperform, finish] at h
      cases h
      exact absurd rfl (succeeds fault)
    | ok turn m₁ =>
      rw [hperform, finish] at h
      exact ⟨i, e, turn, m₁, rfl, hperform, h⟩

theorem step_framed {outcome : StepOutcome} (h : m.step script host w = (outcome, m', w'))
    (succeeds : ∀ fault, outcome ≠ .failed fault) :
    ∃ i m₁, m.instruction? script = some i ∧ Framed i.machine i.opcode m₁ ∧ Beside m₁ m' := by
  obtain ⟨i, e, turn, m₂, hi, hperform, hsettle⟩ := step_performed h succeeds
  obtain ⟨m₁, framed, beside⟩ := perform_framed hperform
  obtain ⟨_, v, _, hsettle', -⟩ := settle_cases host turn m₂ (w.note e)
  rw [hsettle'] at hsettle
  cases hsettle
  exact ⟨i, m₁, hi, framed, beside.trans (beside_receive m₂ v)⟩

theorem setting_fetched (m : Machine) (code : UInt16) (position : Nat) :
    setting (m.fetched code position) = setting m := rfl

theorem machine_of_instruction? {i : Instruction} (h : m.instruction? script = some i) :
    ∃ code position, i.machine = m.fetched code position := by
  obtain ⟨code, r, -, -, hmachine⟩ := instruction?_eq_some.mp h
  exact ⟨code, r.position, hmachine⟩

theorem data_of_instruction? {i : Instruction} (h : m.instruction? script = some i) :
    i.machine.data = m.data := by
  obtain ⟨code, position, hmachine⟩ := machine_of_instruction? h
  rw [hmachine, fetched]

theorem calls_of_instruction? {i : Instruction} (h : m.instruction? script = some i) :
    i.machine.calls = m.calls := by
  obtain ⟨code, position, hmachine⟩ := machine_of_instruction? h
  rw [hmachine, fetched]

theorem frameBase_of_instruction? {i : Instruction} (h : m.instruction? script = some i) :
    i.machine.frameBase = m.frameBase := by
  obtain ⟨code, position, hmachine⟩ := machine_of_instruction? h
  rw [hmachine, fetched]

/-- The opcode is a word, and its operand follows. -/
theorem position_of_instruction? {i : Instruction} (h : m.instruction? script = some i) :
    i.machine.position = i.machine.opcodeOffset + 2 := by
  obtain ⟨code, r, hfetch, -, hmachine⟩ := instruction?_eq_some.mp h
  rw [hmachine]
  exact Reader.position_of_uint16 hfetch

theorem setting_step (script : Container) (host : Host σ) (m : Machine) (w : World σ) :
    setting (m.step script host w).2.1 = setting m := by
  cases hi : m.instruction? script with
  | none =>
    obtain ⟨_, _, _, hstep, _, _, _, rfl⟩ := step_of_none host w hi
    rw [hstep]
    rfl
  | some i =>
    obtain ⟨e, hstep⟩ := step_of_some host w hi
    obtain ⟨code, position, hmachine⟩ := machine_of_instruction? hi
    have kept := keeps_perform_setting script i.opcode i.machine
    rw [hmachine, setting_fetched] at kept
    rw [hstep, ← kept, ← hmachine, left]
    cases perform script i.opcode i.machine with
    | error fault m₁ => rfl
    | ok turn m₁ =>
      obtain ⟨_, v, _, hsettle, -⟩ := settle_cases host turn m₁ (w.note e)
      rw [finish, hsettle]
      cases v <;> rfl

end Machine

end ScriptMachine
