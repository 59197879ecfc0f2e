import ScriptMachine.Proofs.Container.Header
import ScriptMachine.Proofs.Machine.Texts
import ScriptMachine.Proofs.Session.Budget

/-!
# Startup of built files

The startup code of a built file pushes a count of no arguments, calls the start procedure, if
there is one, and ends the run. The call leaves the count as the only argument and the address
behind it, so that a return of the procedure comes back to the end of the startup code with its
result, which is then dropped.
-/

namespace ScriptMachine

open CodeItem

variable {σ : Type}

theorem Machine.perform_pushInt {script : Container} {m : Machine} {k : UInt32}
    (h : StandsAt script.code.toList m.position (literal .pushInt k)) :
    Exec.perform script .pushInt (m.fetched Opcode.pushInt.code (m.position + 2)) =
      .ok .next { m.fetched Opcode.pushInt.code (m.position + 6) with
        data := .int k.toInt32.toInt64 :: m.data } := by
  have read := (StandsAt.right h).uint32
  rw [length_bigEndian] at read
  have read : Reader.int32 ⟨script.code, m.position + 2⟩ =
      .ok k.toInt32 ⟨script.code, m.position + 2 + 4⟩ := Reader.number_comp UInt32.toInt32 read
  have fetched := @Exec.operand_eq_ok _ (m.fetched Opcode.pushInt.code (m.position + 2)) _
    script.code Reader.int32 k.toInt32 |>.mpr ⟨_, read, rfl⟩
  exact Exec.next_eq_ok.mpr ⟨rfl, bind_eq_ok.mpr ⟨_, _, fetched, rfl⟩⟩

/-! Ticks whose instruction asks for nothing. -/

def Instruction.site (i : Instruction) : Opcode × Nat := (i.opcode, i.machine.opcodeOffset)

namespace Run

structure Performs (host : Host σ) (r : Run σ) (i : Instruction) (p : Progress σ) : Prop where
  tick : r.tick host = p
  instruction : r.instruction? = some i
  alone : i.request? r.session.script = none

structure Reaches (script : Container) (r : Run σ) (position : Nat) (data calls : Stack) :
    Prop where
  script : r.session.script = script
  unlimited : r.session.maxTicks = none
  position : r.session.machine.position = position
  data : r.session.machine.data = data
  calls : r.session.machine.calls = calls

variable {script : Container} {host : Host σ} {r : Run σ} {i : Instruction}

theorem Performs.advance {p : Progress σ} (h : r.Performs host i p) (n : Nat) :
    (Progress.going r).advance host (n + 1) = p.advance host n := by
  rw [← h.tick]
  rfl

theorem Performs.trace {p : Progress σ} (h : r.Performs host i p) (n : Nat) :
    (Progress.going r).trace host (n + 1) = i :: p.trace host n := by
  rw [← h.tick, Progress.trace, h.instruction]
  rfl

section

variable {turn : Turn} {m : Machine} (host : Host σ) (hi : r.instruction? = some i)
  (hperform : Exec.perform r.session.script i.opcode i.machine = .ok turn m)
  (quiet : turn = .next ∨ ∃ p, turn = .entered p)

include hi hperform quiet

theorem step_of_quiet : i.request? r.session.script = none ∧
    ∃ w, r.session.machine.step r.session.script host r.world = (.continuing, m, w) := by
  obtain ⟨e, hstep⟩ := Machine.step_of_some host r.world (machine_instruction? hi)
  rw [hperform] at hstep
  rw [Instruction.request?_of_ok hperform]
  obtain rfl | ⟨p, rfl⟩ := quiet
  · exact ⟨rfl, _, hstep⟩
  · exact ⟨rfl, _, hstep⟩

theorem goes_of_perform (unlimited : r.session.maxTicks = none) (away : m.position ≠ 0) :
    ∃ r', r.Performs host i (.going r') ∧
      r'.Reaches r.session.script m.position m.data m.calls := by
  obtain ⟨alone, w, hstep⟩ := step_of_quiet host hi hperform quiet
  exact ⟨_, ⟨tick_of_continuing hi hstep away, hi, alone⟩, rfl, unlimited, rfl, rfl, rfl⟩

theorem ends_of_perform (back : m.position = 0) :
    ∃ w, r.Performs host i (.ended .completed { r.session with machine := m } w) := by
  obtain ⟨alone, w, hstep⟩ := step_of_quiet host hi hperform quiet
  obtain ⟨hend, hspent⟩ := ready hi
  refine ⟨w, ?_, hi, alone⟩
  simp only [tick, hend, hspent, Session.step, hstep, back, Bool.false_eq_true, ↓reduceIte]

end

namespace Reaches

variable {position : Nat} {data calls : Stack} (host : Host σ)
  (h : r.Reaches script position data calls)

include h

theorem instruction? {op : Opcode}
    (stands : StandsAt script.code.toList position (bigEndian 2 op.code.toNat)) :
    r.instruction? = some ⟨op, r.session.machine.fetched op.code (position + 2)⟩ := by
  obtain ⟨rfl, unlimited, rfl, rfl, rfl⟩ := h
  have inside := stands.end_le
  rw [length_bigEndian, Array.length_toList] at inside
  have hend : r.session.machine.atEnd r.session.script.code = false := by
    rw [Bool.eq_false_iff, Ne, Machine.atEnd_iff]
    omega
  rw [Run.instruction?, hend, spent_free unlimited]
  exact Machine.instruction?_of_standsAt stands

theorem goes {op : Opcode} {turn : Turn} {m : Machine}
    (stands : StandsAt script.code.toList position (bigEndian 2 op.code.toNat))
    (hperform : Exec.perform script op (r.session.machine.fetched op.code (position + 2)) =
      .ok turn m)
    (quiet : turn = .next ∨ ∃ p, turn = .entered p) (away : m.position ≠ 0) :
    ∃ i r', i.site = (op, position) ∧ r.Performs host i (.going r') ∧
      r'.Reaches script m.position m.data m.calls := by
  have hi := h.instruction? stands
  obtain ⟨rfl, unlimited, rfl, -, -⟩ := h
  obtain ⟨r', performs, reaches⟩ :=
    goes_of_perform host hi hperform quiet unlimited away
  exact ⟨_, r', rfl, performs, reaches⟩

theorem pushInt {k : UInt32}
    (stands : StandsAt script.code.toList position (literal .pushInt k)) :
    ∃ i r', i.site = (.pushInt, position) ∧ r.Performs host i (.going r') ∧
      r'.Reaches script (position + 6) (.int k.toInt32.toInt64 :: data) calls := by
  obtain ⟨-, -, rfl, rfl, rfl⟩ := id h
  exact h.goes host stands.left (Machine.perform_pushInt stands) (.inl rfl) (Nat.succ_ne_zero _)

theorem exitProg (stands : StandsAt script.code.toList position
    (bigEndian 2 Opcode.exitProg.code.toNat)) :
    ∃ i s w, i.site = (.exitProg, position) ∧ r.Performs host i (.ended .completed s w) ∧
      s.machine.position = 0 ∧ s.machine.data = data ∧ s.machine.calls = calls := by
  have hi := h.instruction? stands
  have inside := stands.end_le
  rw [length_bigEndian, Array.length_toList] at inside
  obtain ⟨rfl, -, rfl, rfl, rfl⟩ := h
  have hperform : Exec.perform r.session.script .exitProg
      (r.session.machine.fetched Opcode.exitProg.code (r.session.machine.position + 2)) = .ok .next
        { r.session.machine.fetched Opcode.exitProg.code 0 with initialized := true } :=
    Exec.exitProg_eq_ok.mpr ⟨Nat.lt_of_lt_of_le (Nat.succ_pos _) inside, rfl, rfl⟩
  obtain ⟨w, performs⟩ := ends_of_perform host hi hperform (.inl rfl) rfl
  exact ⟨_, _, w, rfl, performs, rfl, rfl, rfl⟩

end Reaches

theorem Reaches.call {position : Nat} {data calls : Stack} {index : Int64} {q : Procedure}
    (host : Host σ)
    (h : r.Reaches script position (.int index :: data) calls)
    (stands : StandsAt script.code.toList position (bigEndian 2 Opcode.call.code.toNat))
    (found : 0 ≤ index.toInt ∧ script.procedureAt? index.toInt.toNat = some q)
    (inside : 0 < q.body.toNat ∧ q.body.toNat < script.size) :
    ∃ i r', i.site = (.call, position) ∧ r.Performs host i (.going r') ∧
      r'.Reaches script q.body.toNat data (.ofNat (position + 2) :: calls) := by
  have hperform : Exec.perform script .call
      (r.session.machine.fetched Opcode.call.code (position + 2)) = .ok (.entered q)
        { r.session.machine.fetched Opcode.call.code q.body.toNat with
          data, calls := .ofNat (position + 2) :: calls } := by
    refine bind_of_ok (Exec.call_eq_ok.mpr ⟨index, data, ⟨h.data, found⟩, inside.2, ?_⟩)
    rw [← h.calls]
    rfl
  exact h.goes host stands hperform (.inr ⟨q, rfl⟩) (Nat.ne_of_gt inside.1)

theorem Reaches.ret {position : Nat} {result : Value} {address : Int64} {data calls : Stack}
    (host : Host σ)
    (h : r.Reaches script position (result :: .int 0 :: data) (.int address :: calls))
    (hi : r.instruction? = some i) (op : i.opcode = .ret)
    (inside : 0 < address.toInt ∧ address.toInt < script.size) :
    ∃ r', r.Performs host i (.going r') ∧
      r'.Reaches script address.toInt.toNat (result :: data) calls := by
  obtain ⟨rfl, unlimited, -, hdata, hcalls⟩ := h
  have hi' := machine_instruction? hi
  rw [← Machine.data_of_instruction? hi'] at hdata
  rw [← Machine.calls_of_instruction? hi'] at hcalls
  have none : (0 : Int64).toInt.toNat = 0 := rfl
  have hperform : Exec.perform r.session.script i.opcode i.machine = .ok .next
      { i.machine with data := result :: data, calls, position := address.toInt.toNat } := by
    rw [op]
    refine Exec.next_eq_ok.mpr ⟨rfl, Exec.ret_eq_ok.mpr ⟨result, 0, data, address, calls,
      ⟨hdata, Int.le_refl 0, ?_⟩, ⟨hcalls, Int.le_of_lt inside.1, inside.2⟩, rfl⟩⟩
    rw [none]
    exact Nat.zero_le _
  exact goes_of_perform host hi hperform (.inl rfl) unlimited (by
    change address.toInt.toNat ≠ 0
    omega)

/-! The two kinds of startup code. -/

section

variable {data calls : Stack} (host : Host σ) (h : r.Reaches script 0 data calls)

include h

theorem Reaches.startup_exit
    (stands : StandsAt script.code.toList 0
      (literal .pushInt 0 ++ bigEndian 2 Opcode.exitProg.code.toNat)) :
    ∃ i j s w, [i, j].map Instruction.site = [(.pushInt, 0), (.exitProg, 6)] ∧
      [i, j].filterMap (·.request? script) = [] ∧ (Progress.going r).trace host 2 = [i, j] ∧
      (Progress.going r).advance host 2 = .ended .completed s w ∧
      s.machine.position = 0 ∧ s.machine.data = .int 0 :: data ∧ s.machine.calls = calls := by
  have behind := stands.right
  rw [length_literal] at behind
  obtain ⟨i, r₁, hi, performs, h₁⟩ := h.pushInt host stands.left
  obtain ⟨j, s, w, hj, performs₁, hposition, hdata, hcalls⟩ := h₁.exitProg host behind
  refine ⟨i, j, s, w, ?_, ?_, ?_, ?_, hposition, hdata, hcalls⟩
  · rw [List.map_cons, List.map_cons, hi, hj]
    rfl
  · have alone := performs.alone
    have alone₁ := performs₁.alone
    rw [h.script] at alone
    rw [h₁.script] at alone₁
    rw [List.filterMap_cons_none alone, List.filterMap_cons_none alone₁]
    rfl
  · rw [performs.trace, performs₁.trace]
    rfl
  · rw [performs.advance, performs₁.advance]
    rfl

theorem Reaches.startup_call {k : UInt32} {q : Procedure}
    (stands : StandsAt script.code.toList 0 (literal .pushInt 0 ++ (literal .pushInt k ++
      (bigEndian 2 Opcode.call.code.toNat ++ bigEndian 2 Opcode.exitProg.code.toNat))))
    (found : 0 ≤ k.toInt32.toInt64.toInt ∧
      script.procedureAt? k.toInt32.toInt64.toInt.toNat = some q)
    (inside : 0 < q.body.toNat ∧ q.body.toNat < script.size) :
    ∃ r', ((Progress.going r).trace host 3).map Instruction.site =
        [(.pushInt, 0), (.pushInt, 6), (.call, 12)] ∧
      (Progress.going r).advance host 3 = .going r' ∧
      r'.Reaches script q.body.toNat (.int 0 :: data) (.int 14 :: calls) := by
  have second := stands.right
  rw [length_literal] at second
  have third := second.right
  rw [length_literal] at third
  obtain ⟨i, r₁, hi, performs, h₁⟩ := h.pushInt host stands.left
  obtain ⟨j, r₂, hj, performs₁, h₂⟩ := h₁.pushInt host second.left
  obtain ⟨l, r₃, hl, performs₂, h₃⟩ := h₂.call host third.left found inside
  refine ⟨r₃, ?_, ?_, h₃⟩
  · rw [performs.trace, performs₁.trace, performs₂.trace, List.map_cons, List.map_cons,
      List.map_cons, hi, hj, hl]
    rfl
  · rw [performs.advance, performs₁.advance, performs₂.advance]
    rfl

end

theorem Reaches.startup_return {position : Nat} {result : Value} {data calls : Stack}
    (host : Host σ)
    (h : r.Reaches script position (result :: .int 0 :: data) (.int 14 :: calls))
    (hi : r.instruction? = some i) (op : i.opcode = .ret)
    (stands : StandsAt script.code.toList 14 (bigEndian 2 Opcode.exitProg.code.toNat)) :
    ∃ s w, (Progress.going r).advance host 2 = .ended .completed s w ∧
      s.machine.position = 0 ∧ s.machine.data = result :: data ∧ s.machine.calls = calls := by
  have inside := stands.end_le
  rw [length_bigEndian, Array.length_toList] at inside
  have address : (14 : Int64).toInt = 14 := rfl
  have within : 0 < (14 : Int64).toInt ∧ (14 : Int64).toInt < script.size := by
    rw [address]
    exact ⟨by decide, Int.ofNat_lt.mpr (Nat.lt_of_lt_of_le (by decide) inside)⟩
  obtain ⟨r₁, performs, h₁⟩ := h.ret host hi op within
  obtain ⟨j, s, w, -, performs₁, restored⟩ := h₁.exitProg host stands
  refine ⟨s, w, ?_, restored⟩
  rw [performs.advance, performs₁.advance]
  rfl

end Run

namespace Session

structure Restored (s s' : Session) : Prop where
  position : s'.machine.position = 0
  data : s'.machine.data = s.machine.data
  calls : s'.machine.calls = s.machine.calls

variable {host : Host σ} {s : Session} {w : World σ}

theorem begin_setUp (fresh : s.machine.initialized = false) (unlimited : s.maxTicks = none)
    (code : 0 < s.script.size) :
    ∃ r : Run σ, s.begin .setUp w = .started (.going r) ∧
      r.Reaches s.script 0 s.machine.data s.machine.calls := by
  rw [begin, fresh, runFrom, if_pos code]
  exact ⟨_, rfl, rfl, unlimited, rfl, rfl, rfl⟩

theorem obey_setUp {p : Progress σ} {n fuel : Nat} {s₁ : Session} {w₁ : World σ} {v : Value}
    (begun : s.begin .setUp w = .started p) (ended : p.advance host n = .ended .completed s₁ w₁)
    (enough : n ≤ fuel) (position : s₁.machine.position = 0)
    (data : s₁.machine.data = v :: s.machine.data) (calls : s₁.machine.calls = s.machine.calls) :
    ∃ s' w', s.obey host fuel .setUp w = some (.completed, s', w') ∧ s.Restored s' := by
  obtain ⟨more, rfl⟩ := Nat.exists_eq_add_of_le enough
  rw [obey, begun]
  simp only
  rw [Progress.advance_add, ended, Progress.advance_ended]
  simp only [conclude, discardResult, data]
  exact ⟨_, _, rfl, position, rfl, calls⟩

end Session

namespace Draft

open Container

section

variable {steps : List DraftStep} {name : String} {host : Host σ} {s : Session} {w : World σ}
  (headless : ∀ step ∈ steps, step.isHeader = false) (unplaced : ∀ step ∈ steps, step.Unplaced)
  (small : (ofSteps steps).build.length < 2147483648)
  (loads : decode name (ofSteps steps).build.toArray = .ok s.script)
  (fresh : s.machine.initialized = false) (unlimited : s.maxTicks = none)

include headless unplaced loads

theorem standsAt_startup : StandsAt s.script.code.toList 0 (ofSteps steps).defaultHeader := by
  rw [code_of_decode loads]
  exact standsAt_defaultHeader (tallied_ofSteps unplaced) (header_extend headless)

omit headless in
theorem code_pos : 0 < s.script.size := by
  have tallied := tallied_ofSteps unplaced
  rw [Container.size, code_of_decode loads]
  change 0 < (ofSteps steps).build.length
  rw [build_eq tallied, List.length_append, length_front tallied, tablesEnd, headerSize]
  omega

include fresh unlimited

theorem exits_startup
    (none : ∀ p ∈ steps.filterMap DraftStep.procedure?, p.name ≠ startName) {fuel : Nat}
    (enough : 2 ≤ fuel) :
    ∃ s' w', s.obey host fuel .setUp w = some (.completed, s', w') ∧ s.Restored s' ∧
      (s.performed host fuel .setUp w).map Instruction.site = [(.pushInt, 0), (.exitProg, 6)] ∧
      s.requests fuel [(host, .setUp)] w = [] := by
  have header := standsAt_startup headless unplaced loads
  have missing : (ofSteps steps).procedures.findIdx? (·.name = startName) = Option.none := by
    simpa [Array.findIdx?_eq_none_iff, ← Array.mem_toList_iff, procedures_ofSteps] using none
  rw [defaultHeader_of_none missing] at header
  obtain ⟨r, begun, reaches⟩ := s.begin_setUp (w := w) fresh unlimited (code_pos unplaced loads)
  obtain ⟨i, j, s₁, w₁, sites, alone, trace, ended, position, data, calls⟩ :=
    reaches.startup_exit host header
  obtain ⟨s', w', obeyed, restored⟩ := Session.obey_setUp begun ended enough position data calls
  have performed : s.performed host fuel .setUp w = [i, j] := by
    obtain ⟨more, rfl⟩ := Nat.exists_eq_add_of_le enough
    rw [Session.performed, begun]
    simp only
    rw [Progress.trace_add, trace, ended, Progress.trace_ended, List.append_nil]
  refine ⟨s', w', obeyed, restored, ?_, ?_⟩
  · rw [performed, sites]
  · rw [Session.requests_eq, performed, alone]

include small

theorem calls_startup {before after : List ProcedureDraft} {p : ProcedureDraft}
    (procedures : steps.filterMap DraftStep.procedure? = before ++ p :: after)
    (start : p.name = startName) (first : ∀ q ∈ before, q.name ≠ startName) :
    ∃ r q r', s.begin .setUp w = .started (.going r) ∧
      s.script.procedures[before.length]? = some q ∧
      StandsAt s.script.code.toList q.body.toNat (p.body.assemble q.body) ∧
      ((Progress.going r).trace host 3).map Instruction.site =
        [(.pushInt, 0), (.pushInt, 6), (.call, 12)] ∧
      (Progress.going r).advance host 3 = .going r' ∧
      r'.Reaches s.script q.body.toNat (.int 0 :: s.machine.data) (.int 14 :: s.machine.calls) ∧
      StandsAt s.script.code.toList 14 (bigEndian 2 Opcode.exitProg.code.toNat) := by
  have tallied := tallied_ofSteps unplaced
  have size : (ofSteps steps).build.length < UInt32.size := by
    rw [UInt32.size]
    omega
  have hcode := code_of_decode loads
  have listed : (ofSteps steps).procedures.toList = before ++ p :: after := by
    rw [procedures_ofSteps, procedures]
  have header := standsAt_startup headless unplaced loads
  rw [defaultHeader_of_some (start_of_split listed start first)] at header
  obtain ⟨r, begun, reaches⟩ := s.begin_setUp (w := w) fresh unlimited (code_pos unplaced loads)
  have place : (ofSteps steps).procedures.toList[before.length]? = some p := by
    rw [listed, List.getElem?_append_right (Nat.le_refl _), Nat.sub_self]
    rfl
  obtain ⟨q, found, inside, stands⟩ := procedure_of_decodes tallied size loads place
  -- The index is less than the count of bytes, so that it is the one in the operand.
  have index : (Int32.ofNat before.length).toInt64.toInt = before.length := by
    have bound := size_procedures_le tallied
    rw [← Array.length_toList, listed, List.length_append, List.length_cons] at bound
    rw [Int32.toInt_toInt64, Int32.toInt_ofNat_of_lt (by omega)]
  have found' : 0 ≤ (Int32.ofNat before.length).toInt64.toInt ∧
      s.script.procedureAt? (Int32.ofNat before.length).toInt64.toInt.toNat = some q := by
    rw [index]
    exact ⟨Int.natCast_nonneg _, found⟩
  obtain ⟨r', sites, advance, reaches'⟩ := reaches.startup_call host header found'
    ⟨inside.1, by rw [Container.size, hcode]; exact inside.2⟩
  have last := header.right.right.right
  simp only [length_literal, length_bigEndian] at last
  refine ⟨r, q, r', begun, found, ?_, sites, advance, reaches', last⟩
  rw [hcode]
  exact stands

/-- The startup code of a file that was built without any. If there is a start procedure, it
calls the first one, and whenever a return of that finds its result above the count, and the
address above what was there, the run is completed with the stacks as they were. If there is
none, two instructions complete it. -/
theorem default_startup :
    (∀ before p after, steps.filterMap DraftStep.procedure? = before ++ p :: after →
      p.name = startName → (∀ q ∈ before, q.name ≠ startName) →
      ∃ q r, s.script.procedures[before.length]? = some q ∧
        StandsAt s.script.code.toList q.body.toNat (p.body.assemble q.body) ∧
        (s.performed host 3 .setUp w).map Instruction.site =
          [(.pushInt, 0), (.pushInt, 6), (.call, 12)] ∧
        (s.begin .setUp w).progress.advance host 3 = .going r ∧
        r.Reaches s.script q.body.toNat (.int 0 :: s.machine.data) (.int 14 :: s.machine.calls) ∧
        ∀ k r' i result, (Progress.going r).advance host k = .going r' →
          r'.instruction? = some i → i.opcode = .ret →
          r'.session.machine.data = result :: .int 0 :: s.machine.data →
          r'.session.machine.calls = .int 14 :: s.machine.calls →
          ∀ fuel, k + 5 ≤ fuel → ∃ s' w',
            s.obey host fuel .setUp w = some (.completed, s', w') ∧ s.Restored s') ∧
    ((∀ p ∈ steps.filterMap DraftStep.procedure?, p.name ≠ startName) →
      ∀ fuel, 2 ≤ fuel → ∃ s' w', s.obey host fuel .setUp w = some (.completed, s', w') ∧
        s.Restored s' ∧
        (s.performed host fuel .setUp w).map Instruction.site =
          [(.pushInt, 0), (.exitProg, 6)] ∧
        s.requests fuel [(host, .setUp)] w = []) := by
  refine ⟨?_, ?_⟩
  · intro before p after procedures start first
    obtain ⟨r₀, q, r, begun, found, stands, sites, advance, reaches, last⟩ :=
      calls_startup headless unplaced small loads fresh unlimited procedures start first
    refine ⟨q, r, found, stands, ?_, ?_, reaches, ?_⟩
    · rw [Session.performed_eq, begun]
      exact sites
    · rw [begun]
      exact advance
    · intro k r' i result further hi op data calls fuel enough
      obtain ⟨-, -, hsession⟩ := Progress.advance_going further
      have returning : r'.Reaches s.script r'.session.machine.position
          (result :: .int 0 :: s.machine.data) (.int 14 :: s.machine.calls) := by
        refine ⟨?_, ?_, rfl, data, calls⟩
        · rw [hsession]
          exact reaches.script
        · rw [hsession]
          exact reaches.unlimited
      obtain ⟨s₁, w₁, ended, position, data₁, calls₁⟩ :=
        returning.startup_return host hi op last
      have whole : (Progress.going r₀).advance host (3 + (k + 2)) = .ended .completed s₁ w₁ := by
        rw [Progress.advance_add, advance, Progress.advance_add, further, ended]
      exact Session.obey_setUp begun whole (by omega) position data₁ calls₁
  · intro none fuel enough
    exact exits_startup headless unplaced loads fresh unlimited none enough

end

def answerBlock : Block := (({} : Block).emit (.int 7)).op .ret

def answerSteps : List DraftStep :=
  [.procedure { name := "gate", body := doorBlock },
    .procedure { name := "start", body := answerBlock }]

def answerSession (c : Container) : Session where
  script := c
  machine := { data := [.int 5], calls := [.int 9] }

theorem answer_startup :
    (∀ step ∈ answerSteps, step.isHeader = false) ∧ (∀ step ∈ answerSteps, step.Unplaced) ∧
    (ofSteps answerSteps).build.length < 2147483648 ∧
    ∃ c, decode "answer" (ofSteps answerSteps).build.toArray = .ok c ∧
      ∃ s' w', (answerSession c).obey Refusing.host 6 .setUp { host := () } =
        some (.completed, s', w') ∧
        s'.machine.data = [.int 5] ∧ s'.machine.calls = [.int 9] := by
  have plain : ∀ s ∈ answerSteps, s.Plain := by
    simp only [answerSteps, List.forall_mem_cons, DraftStep.Plain, Pool.longest]
    exact ⟨by decide, by decide, by simp⟩
  have headless : ∀ s ∈ answerSteps, s.isHeader = false := by
    simp [answerSteps, DraftStep.isHeader]
  have unplaced : ∀ s ∈ answerSteps, s.Unplaced := fun s hs => (plain s hs).unplaced
  have small : (ofSteps answerSteps).build.length < 2147483648 := by decide +kernel
  have size : (ofSteps answerSteps).build.length < UInt32.size := Nat.lt_trans small (by decide)
  have tidy := tidy_ofSteps plain
  have ends : EndsInCode (ofSteps answerSteps).procedures.toList := by
    rw [procedures_ofSteps]
    intro block hblock
    cases hblock
    decide
  obtain ⟨l, -, hbytes, sound⟩ := (tidy.valid_iff.mpr ends).exists_layout tidy.tallied size
  obtain ⟨c, hc⟩ := (decodes_iff_sound "answer" (ofSteps answerSteps).build.toArray size hbytes).mpr
    sound
  refine ⟨headless, unplaced, small, c, hc, ?_⟩
  have first : ∀ q ∈ [({ name := "gate", body := doorBlock } : ProcedureDraft)],
      q.name ≠ startName := by
    simp [startName]
  obtain ⟨q, r, -, stands, -, -, reaches, back⟩ := (@default_startup Unit answerSteps "answer"
    Refusing.host (answerSession c) { host := () } headless unplaced small hc rfl rfl).1
      [_] _ [] rfl rfl first
  have stands : StandsAt c.code.toList q.body.toNat
    (literal .pushInt 7 ++ bigEndian 2 Opcode.ret.code.toNat) := stands
  have behind := stands.right
  rw [length_literal] at behind
  obtain ⟨i, r', -, performs, reaches'⟩ := reaches.pushInt Refusing.host stands.left
  have hi := reaches'.instruction? behind
  obtain ⟨s', w', obeyed, restored⟩ := back 1 r' _ (.int 7) (performs.advance 0) hi rfl
    reaches'.data reaches'.calls 6 (by decide)
  exact ⟨s', w', obeyed, restored.data, restored.calls⟩

end Draft

end ScriptMachine
