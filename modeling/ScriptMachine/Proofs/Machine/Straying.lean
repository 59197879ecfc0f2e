import ScriptMachine.Proofs.Container.Cutting
import ScriptMachine.Proofs.Machine.Bounds
import ScriptMachine.Proofs.Machine.Raising
import ScriptMachine.Proofs.Machine.Targets

/-!
# Addresses that are missing

An instruction is in want of an address if it is cut off by the end of the code, or if its
target is not inside. A file that the decoder accepts has a start, and its procedures start
inside it, so the end of startup code and the calls of procedures are not among those.
-/

namespace ScriptMachine

namespace Container

structure Enterable (script : Container) : Prop where
  start : 0 < script.size
  body : ∀ p ∈ script.procedures, p.body.toNat < script.size

theorem enterable_of_decode {name : String} {file : Array UInt8} {script : Container}
    (h : decode name file = .ok script) : script.Enterable := by
  have hcode : script.size = file.size := congrArg Array.size (code_of_decode h)
  refine ⟨?_, fun p hp => ?_⟩
  · by_contra empty
    have short : file.toList.length < headerSize := by
      rw [Array.length_toList, headerSize]
      omega
    rw [decode_of_head (head_of_lt short)] at h
    contradiction
  · rw [hcode]
    exact (exists_start h).1 p hp .body

variable {script : Container} {p : Procedure}

theorem Enterable.of_procedure? (h : script.Enterable) {name : String}
    (found : script.procedure? name = some p) : p.body.toNat < script.size :=
  h.body p (Array.mem_of_find?_eq_some found)

theorem Enterable.of_procedureAt? (h : script.Enterable) {index : Nat}
    (found : script.procedureAt? index = some p) : p.body.toNat < script.size :=
  h.body p (Array.mem_of_getElem? found)

end Container

namespace Exec

variable {α β : Type} {script : Container} {code : Array UInt8} {m : Machine} {a : Int64}
  {op : Opcode}

def Quiet (x : Exec α) : Prop := Raises (fun e => ∀ a, e ≠ .addressOutOfRange a) x

theorem Quiet.not_faults {x : Exec α} (h : Quiet x) : ¬ Faults x m (.addressOutOfRange a) :=
  fun ⟨m', hx⟩ => h m _ m' hx a rfl

theorem quiet_of_still {x : Exec α} (h : Raises (op.mayRaise ·) x) (still : op.isMoving = false) :
    Quiet x := by
  rintro m e m' hx a rfl
  have raised := h m _ m' hx
  cases op <;> contradiction

theorem quiet {x : Exec α} (h : Raises (Opcode.noop.mayRaise ·) x) : Quiet x := quiet_of_still h rfl

theorem quiet_procedureAt (index : Int64) : Quiet (procedureAt script index) :=
  quiet_of_still (raises_procedureAt rfl script index) (rfl : Opcode.checkArgCount.isMoving = false)

theorem Faults.cases {x : Exec α} {k : α → Exec β} {e : Fault} (h : Faults (x >>= k) m e) :
    Faults x m e ∨ ∃ b m₁, x m = .ok b m₁ ∧ Faults (k b) m₁ e := by
  obtain ⟨m', h⟩ := h
  cases hx : x m with
  | error e₁ m₁ =>
    rw [bind_of_error hx] at h
    cases h
    exact .inl ⟨_, hx⟩
  | ok b m₁ =>
    rw [bind_of_ok hx] at h
    exact .inr ⟨b, m₁, rfl, m', h⟩

theorem Faults.behind {x : Exec α} {k : α → Exec β}
    (h : Faults (x >>= k) m (.addressOutOfRange a)) (hx : Quiet x) :
    ∃ b m₁, x m = .ok b m₁ ∧ Faults (k b) m₁ (.addressOutOfRange a) :=
  h.cases.resolve_left hx.not_faults

theorem Faults.before {x : Exec α} {k : α → Exec β}
    (h : Faults (x >>= k) m (.addressOutOfRange a)) (hk : ∀ b, Quiet (k b)) :
    Faults x m (.addressOutOfRange a) :=
  h.cases.resolve_right fun ⟨b, _, _, later⟩ => (hk b).not_faults later

theorem Faults.unguard {c : Prop} [Decidable c] {e : Fault} {x : Exec α}
    (h : Faults (if c then (throw e : Exec Unit) >>= fun _ => x else pure () >>= fun _ => x) m
      (.addressOutOfRange a)) (he : ∀ a, e ≠ .addressOutOfRange a) :
    ¬ c ∧ Faults x m (.addressOutOfRange a) := by
  by_cases hc : c
  · rw [if_pos hc] at h
    obtain ⟨m', h⟩ := h
    cases h
    exact absurd rfl (he a)
  · rw [if_neg hc] at h
    exact ⟨hc, h⟩

theorem faults_jump_iff {address : Int64} : Faults (jump code address) m (.addressOutOfRange a) ↔
    ¬ (0 ≤ address.toInt ∧ address.toInt < code.size) ∧ a = address := by
  by_cases inside : 0 ≤ address.toInt ∧ address.toInt < code.size
  · refine iff_of_false ?_ fun h => h.1 inside
    rintro ⟨m', h⟩
    rw [jump, if_pos inside] at h
    contradiction
  · rw [jump, if_neg inside]
    constructor
    · rintro ⟨m', h⟩
      cases h
      exact ⟨inside, rfl⟩
    · rintro ⟨-, rfl⟩
      exact ⟨m, rfl⟩

theorem faults_operand_iff {width : Nat} {read : Reader.Work α}
    (field : Reader.Field width read) : Faults (operand code read) m (.addressOutOfRange a) ↔
      code.size < m.position + width ∧ a = .ofNat m.position := by
  rcases field (m.reader code) with ⟨fits, b, hread⟩ | ⟨cut, hread⟩
  · refine iff_of_false ?_ fun h => absurd h.1 (Nat.not_lt.mpr fits)
    rintro ⟨m', h⟩
    rw [operand_eq_ok.mpr ⟨_, hread, rfl⟩] at h
    contradiction
  · have failed : operand code read m = .error (.addressOutOfRange (.ofNat m.position)) m := by
      rw [operand, hread]
      rfl
    constructor
    · rintro ⟨m', h⟩
      rw [failed] at h
      cases h
      exact ⟨cut, rfl⟩
    · rintro ⟨-, rfl⟩
      exact ⟨m, failed⟩

def CutOff (script : Container) (op : Opcode) (m : Machine) : Prop :=
  op.operandSize ≠ 0 ∧ script.size < m.position + op.operandSize

theorem faults_of_cutOff (h : CutOff script op m) :
    Faults (perform script op) m (.addressOutOfRange (.ofNat m.position)) := by
  obtain ⟨sized, cut⟩ := h
  cases op with
  | pushInt => exact (faults_operand_iff Reader.field_int32).mpr ⟨cut, rfl⟩ |>.bind |>.bind
  | pushFloat => exact (faults_operand_iff Reader.field_float32).mpr ⟨cut, rfl⟩ |>.bind |>.bind
  | pushString => exact (faults_operand_iff Reader.field_uint32).mpr ⟨cut, rfl⟩ |>.bind |>.bind
  | _ => contradiction

theorem target_jump {address : Int64} (h : Faults (jump code address) m (.addressOutOfRange a)) :
    a = address ∧ ¬ (0 ≤ a.toInt ∧ a.toInt < code.size) := by
  obtain ⟨outside, rfl⟩ := faults_jump_iff.mp h
  exact ⟨rfl, outside⟩

theorem target_jumpUnless (jumps : op = .jumpUnless ∨ op = .loopUnless)
    (h : Faults (jumpUnless script.code) m (.addressOutOfRange a)) :
    Instruction.target? script ⟨op, m⟩ = some a ∧
      ¬ (0 ≤ a.toInt ∧ a.toInt < script.code.size) := by
  obtain ⟨holds, m₁, hpop, h⟩ := h.behind (quiet raises_popLogical)
  obtain ⟨condition, data, ⟨hdata, rfl⟩, rfl⟩ := popLogical_eq_ok.mp hpop
  obtain ⟨address, m₁, hpop, h⟩ := h.behind (quiet raises_popInteger)
  obtain ⟨below, hbelow, rfl⟩ := popInteger_eq_ok.mp hpop
  obtain rfl : data = .int address :: below := hbelow
  cases fails : condition.isTrue with
  | true =>
    rw [fails] at h
    exact absurd h (quiet (raises_pure ())).not_faults
  | false =>
    rw [fails] at h
    obtain ⟨rfl, outside⟩ := target_jump h
    refine ⟨?_, outside⟩
    obtain rfl | rfl := jumps <;> simp [Instruction.target?, hdata, fails]

theorem target_call (h : Faults (call script) m (.addressOutOfRange a)) :
    Instruction.target? script ⟨.call, m⟩ = some a ∧
      ¬ (0 ≤ a.toInt ∧ a.toInt < script.code.size) := by
  obtain ⟨index, m₁, hpop, h⟩ := h.behind (quiet raises_popInteger)
  obtain ⟨below, hdata, rfl⟩ := popInteger_eq_ok.mp hpop
  obtain ⟨p, m₁, hp, h⟩ := h.behind (quiet_procedureAt index)
  obtain ⟨⟨positive, found⟩, rfl⟩ := procedureAt_eq_ok.mp hp
  obtain ⟨_, m₁, -, h⟩ := h.behind (quiet raises_get)
  obtain ⟨_, m₁, -, h⟩ := h.behind (quiet (raises_onCalls (Stack.raises_push _)))
  obtain ⟨outside, rfl⟩ := faults_jump_iff.mp (h.before fun _ => quiet (raises_pure _))
  refine ⟨?_, outside⟩
  simp only [Instruction.target?, hdata, if_pos positive, found, Option.map_some]

theorem target_ret (h : Faults (ret script.code) m (.addressOutOfRange a)) :
    Instruction.target? script ⟨.ret, m⟩ = some a ∧
      ¬ (0 ≤ a.toInt ∧ a.toInt < script.code.size) := by
  obtain ⟨result, m₁, hpop, h⟩ := h.behind (quiet raises_pop)
  obtain ⟨data, hdata, rfl⟩ := pop_eq_ok.mp hpop
  obtain ⟨count, m₁, hpop, h⟩ := h.behind (quiet raises_popInteger)
  obtain ⟨rest, hrest, rfl⟩ := popInteger_eq_ok.mp hpop
  obtain rfl : data = .int count :: rest := hrest
  obtain ⟨positive, h⟩ := h.unguard (by simp)
  obtain ⟨_, m₁, hdrop, h⟩ := h.behind (quiet (raises_onData (Stack.raises_dropMany _)))
  obtain ⟨left, hleft, rfl⟩ := onData_eq_ok.mp hdrop
  obtain ⟨enough, rfl⟩ := Stack.dropMany_eq_ok.mp hleft
  obtain ⟨address, m₁, hpop, h⟩ := h.behind (quiet (raises_onCalls (Stack.raises_popAs _ _)))
  obtain ⟨calls, hcalls, rfl⟩ := onCalls_eq_ok.mp hpop
  have hcalls : m.calls = .int address :: calls := Stack.popInteger_eq_ok.mp hcalls
  obtain ⟨_, m₁, -, h⟩ := h.behind (quiet (raises_push result))
  obtain ⟨rfl, outside⟩ := target_jump h
  refine ⟨?_, outside⟩
  simp only [Instruction.target?, hdata, hcalls]
  exact if_pos ⟨Int.not_lt.mp positive, enough⟩

theorem cutOff_of_faults {read : Reader.Work α} {k : α → Exec Unit}
    (hop : op.operandSize = 4) (field : Reader.Field 4 read) (hk : ∀ b, Quiet (k b))
    (h : Faults (operand script.code read >>= k) m (.addressOutOfRange a)) :
    CutOff script op m ∧ a = .ofNat m.position := by
  obtain ⟨short, rfl⟩ := (faults_operand_iff field).mp (h.before hk)
  rw [CutOff, hop]
  exact ⟨⟨by decide, short⟩, rfl⟩

/-- Only the operand and the target of an instruction can be the address that is missing. -/
theorem cutOff_or_target (h : Faults (perform script op) m (.addressOutOfRange a)) :
    (CutOff script op m ∧ a = .ofNat m.position) ∨
      Instruction.target? script ⟨op, m⟩ = some a ∧ ¬ (0 ≤ a.toInt ∧ a.toInt < script.size) := by
  cases moving : op.isMoving with
  | false => exact absurd h (quiet_of_still (raises_perform script op) moving).not_faults
  | true =>
    have pushed (v : Value) : Quiet (push v) := quiet (raises_push v)
    have own {x : Exec Unit} (h : Faults (next x) m (.addressOutOfRange a)) :
        Faults x m (.addressOutOfRange a) := h.before fun _ => quiet (raises_pure _)
    cases op with
    | pushInt => exact .inl (cutOff_of_faults rfl Reader.field_int32 (fun _ => pushed _) (own h))
    | pushFloat =>
      exact .inl (cutOff_of_faults rfl Reader.field_float32 (fun _ => pushed _) (own h))
    | pushString =>
      refine .inl (cutOff_of_faults rfl Reader.field_uint32 (fun offset => ?_) (own h))
      refine Raises.bind raises_get fun m => ?_
      cases if beforeVariableName m script.code then script.identifier? offset
        else script.string? offset with
      | some s => exact pushed _
      | none => exact raises_throw (by simp)
    | jump =>
      obtain ⟨address, m₁, hpop, h⟩ := (own h).behind (quiet raises_popInteger)
      obtain ⟨below, hdata, rfl⟩ := popInteger_eq_ok.mp hpop
      obtain ⟨rfl, outside⟩ := target_jump h
      exact .inr ⟨by simp only [Instruction.target?, hdata], outside⟩
    | jumpUnless => exact .inr (target_jumpUnless (.inl rfl) (own h))
    | loopUnless => exact .inr (target_jumpUnless (.inr rfl) (own h))
    | call => exact .inr (target_call (h.before fun _ => quiet (raises_pure _)))
    | ret => exact .inr (target_ret (own h))
    | exitProg =>
      obtain ⟨_, m₁, -, h⟩ := (own h).behind (quiet (raises_modify _))
      obtain ⟨rfl, outside⟩ := target_jump h
      exact .inr ⟨rfl, outside⟩
    | _ => contradiction

theorem perform_of_inside (enters : op = .call ∨ op = .exitProg)
    (target : Instruction.target? script ⟨op, m⟩ = some a)
    (inside : 0 ≤ a.toInt ∧ a.toInt < script.size) :
    ∃ turn m', perform script op m = .ok turn m' ∧ (turn = .next ∨ ∃ p, turn = .entered p) ∧
      m'.position = a.toInt.toNat := by
  rcases enters with rfl | rfl
  · simp only [Instruction.target?] at target
    split at target
    · rename_i index below hdata
      obtain ⟨positive, target⟩ := Option.ite_none_right_eq_some.mp target
      obtain ⟨p, found, rfl⟩ := Option.map_eq_some_iff.mp target
      rw [toInt_body] at inside ⊢
      have called := call_eq_ok.mpr
        ⟨index, below, ⟨hdata, positive, found⟩, Int.ofNat_lt.mp inside.2, rfl⟩
      exact ⟨.entered p, _, bind_of_ok called, .inr ⟨p, rfl⟩, rfl⟩
    · contradiction
  · cases target
    exact ⟨.next, { m with initialized := true, position := 0 },
      exitProg_eq_ok.mpr ⟨Int.ofNat_lt.mp inside.2, rfl, rfl⟩, .inl rfl, rfl⟩

end Exec

/-- Where a container can be entered, its own addresses are inside. -/
theorem Container.Enterable.inside_of_target {script : Container} (h : script.Enterable)
    {i : Instruction} {a : Int64} (enters : i.opcode = .call ∨ i.opcode = .exitProg)
    (target : i.target? script = some a) : 0 ≤ a.toInt ∧ a.toInt < script.size := by
  obtain ⟨op, m⟩ := i
  obtain rfl | rfl : op = .call ∨ op = .exitProg := enters
  · simp only [Instruction.target?] at target
    split at target
    · obtain ⟨-, target⟩ := Option.ite_none_right_eq_some.mp target
      obtain ⟨p, found, rfl⟩ := Option.map_eq_some_iff.mp target
      rw [Exec.toInt_body]
      exact ⟨Int.natCast_nonneg _, Int.ofNat_lt.mpr (h.of_procedureAt? found)⟩
    · contradiction
  · cases target
    exact ⟨Int.le_refl 0, Int.ofNat_lt.mpr h.start⟩

namespace Machine

variable {σ : Type} {script : Container} {m : Machine} {a : Int64}

inductive Astray (script : Container) (m : Machine) : Int64 → Prop where
  | opcode : script.size < m.position + 2 → Astray script m (.ofNat m.position)
  | operand (i : Instruction) : m.instruction? script = some i → i.opcode.operandSize = 4 →
      script.size < m.position + 2 + 4 → Astray script m (.ofNat (m.position + 2))
  | target (i : Instruction) (address : Int64) : m.instruction? script = some i →
      i.opcode ∈ [.jump, .jumpUnless, .loopUnless, .ret] → i.target? script = some address →
      address.toInt < 0 ∨ script.size ≤ address.toInt → Astray script m address

theorem computed_of_target (enterable : script.Enterable) {i : Instruction}
    (target : i.target? script = some a) (outside : ¬ (0 ≤ a.toInt ∧ a.toInt < script.size)) :
    i.opcode ∈ [.jump, .jumpUnless, .loopUnless, .ret] := by
  obtain ⟨op, m⟩ := i
  cases op with
  | jump | jumpUnless | loopUnless | ret => simp
  | call => exact absurd (enterable.inside_of_target (.inl rfl) target) outside
  | exitProg => exact absurd (enterable.inside_of_target (.inr rfl) target) outside
  | _ => contradiction

theorem step_astray_iff (enterable : script.Enterable) (host : Host σ) (w : World σ) :
    (m.step script host w).1 = .failed (.addressOutOfRange a) ↔ m.Astray script a := by
  rw [step]
  rcases Reader.field_uint16 (m.reader script.code) with ⟨fits, code, hread⟩ | ⟨cut, hread⟩
  · have whole : ¬ script.size < m.position + 2 := Nat.not_lt.mpr fits
    have fetched : m.instruction? script =
        (Opcode.ofCode? code).map fun op => ⟨op, m.fetched code (m.position + 2)⟩ := by
      simp only [instruction?, hread]
      rfl
    simp only [hread]
    cases hop : Opcode.ofCode? code with
    | none =>
      rw [hop, Option.map_none] at fetched
      rw [execute_of_none _ _ _ hop]
      refine iff_of_false (by simp) fun astray => ?_
      cases astray with
      | opcode cut => exact whole cut
      | operand i hi | target i _ hi => simp [fetched] at hi
    | some op =>
      obtain rfl := Opcode.code_of_ofCode? hop
      rw [hop, Option.map_some] at fetched
      rw [execute_failed_iff]
      constructor
      · intro fault
        rcases Exec.cutOff_or_target fault with ⟨⟨sized, short⟩, rfl⟩ | ⟨target, outside⟩
        · have size : op.operandSize = 4 := by cases op <;> first | rfl | contradiction
          rw [size] at short
          exact .operand _ fetched size short
        · exact .target _ a fetched (computed_of_target enterable target outside) target (by omega)
      · intro astray
        cases astray with
        | opcode cut => exact absurd cut whole
        | operand i hi sized short =>
          obtain rfl := Option.some_inj.mp (fetched.symm.trans hi)
          exact Exec.faults_of_cutOff ⟨by simp [sized], by rwa [sized]⟩
        | target i _ hi _ target outside =>
          obtain rfl := Option.some_inj.mp (fetched.symm.trans hi)
          exact Exec.faults_of_target target (by omega)
  · have unfetched : m.instruction? script = none := by simp only [instruction?, hread]
    simp only [hread]
    constructor
    · intro failed
      cases failed
      exact .opcode cut
    · intro astray
      cases astray with
      | opcode => rfl
      | operand i hi | target i _ hi => simp [unfetched] at hi

theorem step_of_inside (enterable : script.Enterable) (host : Host σ) (w : World σ)
    {i : Instruction} (hi : m.instruction? script = some i)
    (enters : i.opcode = .call ∨ i.opcode = .exitProg) (target : i.target? script = some a) :
    ∃ m' w', m.step script host w = (.continuing, m', w') ∧ m'.position = a.toInt.toNat := by
  obtain ⟨e, hstep⟩ := step_of_some host w hi
  obtain ⟨turn, m', hperform, plain, position⟩ := Exec.perform_of_inside enters target
    (enterable.inside_of_target enters target)
  rw [hstep, hperform, finish]
  rcases plain with rfl | ⟨p, rfl⟩
  · exact ⟨m', _, rfl, position⟩
  · exact ⟨m', _, rfl, position⟩

end Machine

end ScriptMachine
