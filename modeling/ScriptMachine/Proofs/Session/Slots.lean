import ScriptMachine.Proofs.Machine.Operands
import ScriptMachine.Proofs.Session.Trace

/-!
# Slots over a run

A slot of the data stack whose value no instruction takes holds, after any number of
instructions, what was last stored to it, or else what it held before. Calls and returns
play no part in that, however they nest.
-/

namespace ScriptMachine

namespace Instruction

def Takes (i : Instruction) (slot : Nat) : Prop :=
  slot < i.machine.data.length ∧ i.machine.data.length ≤ slot + i.taken

instance (i : Instruction) (slot : Nat) : Decidable (i.Takes slot) :=
  inferInstanceAs (Decidable (_ ∧ _))

def stored? (i : Instruction) (slot : Nat) : Option Value :=
  match i.store? with
  | some (index, v) => if index = slot then some v else none
  | none => none

theorem bottomUp_beneath (i : Instruction) {slot : Nat} (inside : slot < i.machine.data.length)
    (kept : ¬ i.Takes slot) :
    i.beneath.bottomUp[slot]? = (i.stored? slot).or i.machine.data.bottomUp[slot]? := by
  have low : slot < i.machine.data.length - i.taken := by
    rw [Takes, not_and_or] at kept
    omega
  have rest : (Stack.bottomUp (i.machine.data.drop i.taken))[slot]? =
      i.machine.data.bottomUp[slot]? := by
    rw [Stack.bottomUp, Stack.bottomUp, List.reverse_drop, List.getElem?_take_of_lt low]
  simp only [beneath, stored?]
  cases i.store? with
  | none => exact rest
  | some stored =>
    obtain ⟨index, v⟩ := stored
    have depth : slot < (Stack.bottomUp (i.machine.data.drop i.taken)).length := by
      rw [Stack.bottomUp, List.length_reverse, List.length_drop]
      exact low
    change (List.reverse (List.reverse _))[slot]? = (if index = slot then some v else none).or _
    rw [List.reverse_reverse]
    by_cases same : index = slot
    · subst same
      rw [List.getElem?_set_self depth, if_pos rfl]
      rfl
    · rw [List.getElem?_set_ne same, if_neg same]
      exact rest

end Instruction

def lastStored (slot : Nat) : List Instruction → Option Value
  | [] => none
  | i :: rest => (lastStored slot rest).or (i.stored? slot)

theorem lastStored_append (slot : Nat) (trace further : List Instruction) :
    lastStored slot (trace ++ further) = (lastStored slot further).or (lastStored slot trace) := by
  induction trace with
  | nil => rw [List.nil_append, lastStored, Option.or_none]
  | cons i rest ih => rw [List.cons_append, lastStored, lastStored, ih, Option.or_assoc]

variable {σ : Type} {script : Container} {host : Host σ} {m m' : Machine} {w w' : World σ}

theorem Stack.bottomUp_truncate (s : Stack) (n : Nat) :
    (s.truncate n).bottomUp = s.bottomUp.take n := by
  rw [truncate, bottomUp, bottomUp, List.reverse_drop, List.take_eq_take_iff, List.length_reverse]
  omega

theorem Stack.bottomUp_append (above s : Stack) :
    (above ++ s : Stack).bottomUp = s.bottomUp ++ above.bottomUp := List.reverse_append

theorem Stack.le_length {s : Stack} {depth : Nat} (h : ∀ slot < depth, slot < s.length) :
    depth ≤ s.length := by
  by_contra shallow
  exact Nat.lt_irrefl _ (h s.length (Nat.not_le.mp shallow))

theorem Stack.slot_append (above : Stack) {s : Stack} {slot : Nat} (inside : slot < s.length) :
    (above ++ s : Stack).bottomUp[slot]? = s.bottomUp[slot]? := by
  rw [bottomUp_append, List.getElem?_append_left]
  rwa [bottomUp, List.length_reverse]

theorem Stack.slot_top (v : Value) (s : Stack) :
    (Stack.bottomUp (v :: s))[s.length]? = some v := by
  rw [bottomUp, List.reverse_cons, ← List.length_reverse]
  exact List.getElem?_concat_length

theorem Stack.lt_length_of_getElem? {s : Stack} {slot : Nat} {v : Value}
    (h : s.bottomUp[slot]? = some v) : slot < s.length := by
  rw [← List.length_reverse]
  exact (List.getElem?_eq_some_iff.mp h).1

theorem Stack.getElem?_or {s : Stack} {slot : Nat} (inside : slot < s.length)
    (stored : Option Value) : ∃ v, stored.or s.bottomUp[slot]? = some v := by
  rw [← List.length_reverse] at inside
  cases stored with
  | some v => exact ⟨v, rfl⟩
  | none => exact ⟨_, List.getElem?_eq_getElem inside⟩

theorem Machine.step_slot {outcome : StepOutcome} {i : Instruction}
    (hi : m.instruction? script = some i) (h : m.step script host w = (outcome, m', w'))
    (succeeds : ∀ fault, outcome ≠ .failed fault) {slot : Nat} (inside : slot < m.data.length)
    (kept : ¬ i.Takes slot) :
    slot < m'.data.length ∧
      m'.data.bottomUp[slot]? = (i.stored? slot).or m.data.bottomUp[slot]? := by
  have hdata := data_of_instruction? hi
  rw [← hdata] at inside ⊢
  have beneath := i.bottomUp_beneath inside kept
  obtain ⟨v, hv⟩ := Stack.getElem?_or inside (i.stored? slot)
  have low := Stack.lt_length_of_getElem? (beneath.trans hv)
  obtain ⟨pushed, -, -, hpushed⟩ := step_data hi h succeeds
  rw [hpushed]
  refine ⟨Nat.lt_of_lt_of_le low (by simp), ?_⟩
  rw [← beneath, Stack.bottomUp, List.reverse_append]
  exact List.getElem?_append_left (by rwa [List.length_reverse])

/-- The frame of a run: what it leaves in a slot that none of its instructions takes. -/
theorem Path.slot {trace : List Instruction} (path : Path script host m w trace m' w') {slot : Nat}
    (inside : slot < m.data.length) (kept : ∀ i ∈ trace, ¬ i.Takes slot) :
    slot < m'.data.length ∧
      m'.data.bottomUp[slot]? = (lastStored slot trace).or m.data.bottomUp[slot]? := by
  induction path with
  | nil => exact ⟨inside, rfl⟩
  | @cons m m₁ m' w w₁ w' i rest hi hstep _ ih =>
    obtain ⟨inside₁, first⟩ := Machine.step_slot hi hstep nofun inside (kept i List.mem_cons_self)
    obtain ⟨inside', further⟩ := ih inside₁ fun j hj => kept j (List.mem_cons_of_mem i hj)
    refine ⟨inside', ?_⟩
    rw [further, first, lastStored, Option.or_assoc]

end ScriptMachine
