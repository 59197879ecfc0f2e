import ScriptMachine.Proofs.Machine.Effects

/-!
# Where instructions would go

An instruction that goes elsewhere has a target, which it finds on the stacks or in the
container. It goes there if the target is inside the code, and fails with the target as the
fault's address if it is not.
-/

namespace ScriptMachine

/-- The address that the instruction would go to, in the code or not, if it finds on the stacks
what it needs to go there and does not go on behind itself. -/
def Instruction.target? (script : Container) (i : Instruction) : Option Int64 :=
  match i.opcode with
  | .jump =>
    match i.machine.data with
    | .int address :: _ => some address
    | _ => none
  | .jumpUnless | .loopUnless =>
    match i.machine.data with
    | condition :: .int address :: _ => if condition.isTrue then none else some address
    | _ => none
  | .call =>
    match i.machine.data with
    | .int index :: _ =>
      if 0 ≤ index.toInt then
        (script.procedureAt? index.toInt.toNat).map fun p => .ofNat p.body.toNat
      else none
    | _ => none
  | .ret =>
    match i.machine.data, i.machine.calls with
    | _ :: .int count :: rest, .int address :: _ =>
      if 0 ≤ count.toInt ∧ count.toInt.toNat ≤ rest.length then some address else none
    | _, _ => none
  | .exitProg => some 0
  | _ => none

namespace Exec

variable {α β : Type} {script : Container} {code : Array UInt8} {m m' : Machine} {fault : Fault}

def Faults (x : Exec α) (m : Machine) (fault : Fault) : Prop := ∃ m', x m = .error fault m'

theorem Faults.bind {x : Exec α} {k : α → Exec β} (h : Faults x m fault) :
    Faults (x >>= k) m fault := by
  obtain ⟨m', hx⟩ := h
  exact ⟨m', bind_of_error hx⟩

theorem Faults.after {x : Exec α} {k : α → Exec β} {a : α} (h : Faults (k a) m' fault)
    (hx : x m = .ok a m') : Faults (x >>= k) m fault := by
  obtain ⟨m₁, hk⟩ := h
  exact ⟨m₁, (bind_of_ok hx).trans hk⟩

theorem Faults.guard {c : Prop} [Decidable c] {e : Fault} {x : Exec α} (h : Faults x m fault)
    (passed : ¬ c) :
    Faults (if c then (throw e : Exec Unit) >>= fun _ => x else pure () >>= fun _ => x) m
      fault := by
  rw [if_neg passed]
  exact h

variable {address : Int64}

theorem faults_jump (outside : ¬ (0 ≤ address.toInt ∧ address.toInt < code.size)) :
    Faults (jump code address) m (.addressOutOfRange address) := by
  rw [jump, if_neg outside]
  exact ⟨m, rfl⟩

theorem faults_jumpUnless {condition : Value} {below : Stack}
    (hdata : m.data = condition :: .int address :: below) (fails : condition.isTrue = false)
    (outside : ¬ (0 ≤ address.toInt ∧ address.toInt < code.size)) :
    Faults (jumpUnless code) m (.addressOutOfRange address) := by
  refine Faults.after ?_ (popLogical_eq_ok.mpr ⟨condition, _, ⟨hdata, fails⟩, rfl⟩)
  refine Faults.after ?_ (popInteger_eq_ok.mpr ⟨below, rfl, rfl⟩)
  exact faults_jump outside

theorem faults_call {index : Int64} {p : Procedure} {below : Stack}
    (hdata : m.data = .int index :: below) (positive : 0 ≤ index.toInt)
    (found : script.procedureAt? index.toInt.toNat = some p)
    (outside : ¬ (0 ≤ (Int64.ofNat p.body.toNat).toInt ∧
      (Int64.ofNat p.body.toNat).toInt < script.code.size)) :
    Faults (call script) m (.addressOutOfRange (.ofNat p.body.toNat)) := by
  refine Faults.after ?_ (popInteger_eq_ok.mpr ⟨below, hdata, rfl⟩)
  refine Faults.after ?_ (procedureAt_eq_ok.mpr ⟨⟨positive, found⟩, rfl⟩)
  refine Faults.after ?_ (get_eq_ok.mpr ⟨rfl, rfl⟩)
  refine Faults.after (a := ()) ?_ (onCalls_eq_ok.mpr ⟨_, Stack.push_eq_ok.mpr rfl, rfl⟩)
  exact (faults_jump outside).bind

theorem faults_ret {result : Value} {count : Int64} {rest below : Stack}
    (hdata : m.data = result :: .int count :: rest) (positive : 0 ≤ count.toInt)
    (enough : count.toInt.toNat ≤ rest.length) (hcalls : m.calls = .int address :: below)
    (outside : ¬ (0 ≤ address.toInt ∧ address.toInt < code.size)) :
    Faults (ret code) m (.addressOutOfRange address) := by
  refine Faults.after ?_ (pop_eq_ok.mpr ⟨_, hdata, rfl⟩)
  refine Faults.after ?_ (popInteger_eq_ok.mpr ⟨rest, rfl, rfl⟩)
  refine Faults.guard ?_ (Int.not_lt.mpr positive)
  refine Faults.after (a := ()) ?_
    (onData_eq_ok.mpr ⟨_, Stack.dropMany_eq_ok.mpr ⟨enough, rfl⟩, rfl⟩)
  refine Faults.after ?_ (onCalls_eq_ok.mpr ⟨below, Stack.popInteger_eq_ok.mpr hcalls, rfl⟩)
  exact Faults.after (a := ()) (faults_jump outside) (push_eq_ok.mpr rfl)

theorem faults_of_target {i : Instruction} (h : i.target? script = some address)
    (outside : ¬ (0 ≤ address.toInt ∧ address.toInt < script.size)) :
    Faults (perform script i.opcode) i.machine (.addressOutOfRange address) := by
  obtain ⟨op, m⟩ := i
  simp only [Instruction.target?] at h
  cases op with
  | jump =>
    simp only at h
    split at h
    · cases h
      exact (Faults.after (faults_jump outside) (popInteger_eq_ok.mpr ⟨_, ‹_›, rfl⟩)).bind
    · contradiction
  | jumpUnless | loopUnless =>
    simp only at h
    split at h
    · obtain ⟨fails, ⟨⟩⟩ := Option.ite_none_left_eq_some.mp h
      exact (faults_jumpUnless ‹_› (Bool.eq_false_iff.mpr fails) outside).bind
    · contradiction
  | call =>
    simp only at h
    split at h
    · obtain ⟨positive, h⟩ := Option.ite_none_right_eq_some.mp h
      obtain ⟨p, found, rfl⟩ := Option.map_eq_some_iff.mp h
      exact (faults_call ‹_› positive found outside).bind
    · contradiction
  | ret =>
    simp only at h
    split at h
    · obtain ⟨⟨positive, enough⟩, ⟨⟩⟩ := Option.ite_none_right_eq_some.mp h
      exact (faults_ret ‹_› positive enough ‹_› outside).bind
    · contradiction
  | exitProg =>
    cases h
    exact (Faults.after (a := ()) (faults_jump outside) (modify_eq_ok.mpr rfl)).bind
  | _ => contradiction

end Exec

/-- An instruction that succeeds goes to its target, which is inside the code then. -/
theorem Leads.of_target {script : Container} {i : Instruction} {next position : Nat}
    {address : Int64}
    (leads : Leads script next i.machine.data i.machine.calls i.opcode position)
    (h : i.target? script = some address) :
    (position : Int) = address.toInt ∧ position < script.size := by
  obtain ⟨op, m⟩ := i
  simp only [Instruction.target?] at h leads
  generalize m.data = data at h leads
  generalize m.calls = calls at h leads
  cases leads with
  | onward fixed => cases op <;> contradiction
  | holding condition below hop hdata holds =>
    subst hdata
    rcases hop with rfl | rfl <;> simp only at h <;> split at h <;> simp_all
  | failing condition address' below hop hdata fails inside =>
    subst hdata
    rcases hop with rfl | rfl <;> simp only [fails] at h <;> cases h <;> omega
  | jump address' below hdata inside =>
    subst hdata
    cases h
    omega
  | call index p below hdata positive found inside =>
    subst hdata
    simp only [positive, found] at h
    cases h
    exact ⟨(Exec.toInt_body p).symm, inside⟩
  | ret address' below hcalls inside =>
    subst hcalls
    simp only at h
    split at h
    · rename_i same
      obtain ⟨-, ⟨⟩⟩ := Option.ite_none_right_eq_some.mp h
      cases same
      omega
    · contradiction
  | exitProg inside =>
    cases h
    exact ⟨rfl, inside⟩

theorem Machine.step_of_target {σ : Type} (host : Host σ) {script : Container} {m : Machine}
    {i : Instruction} {address : Int64} (hi : m.instruction? script = some i)
    (h : i.target? script = some address)
    (outside : ¬ (0 ≤ address.toInt ∧ address.toInt < script.size)) (w : World σ) :
    ∃ m' w', m.step script host w = (.failed (.addressOutOfRange address), m', w') := by
  obtain ⟨e, hstep⟩ := step_of_some host w hi
  obtain ⟨m', hperform⟩ := Exec.faults_of_target h outside
  exact ⟨m', w.note e, by rw [hstep, hperform, finish]⟩

end ScriptMachine
