import ScriptMachine.Proofs.Machine.Stepping
import ScriptMachine.Proofs.Value.Exactness

/-!
# How instructions fail

Any instruction may lack its operands or find others than it expects. The other faults belong to
a few opcodes each. A division by zero belongs to the two divisions, and it is never reported as
a mere refusal of values.
-/

namespace ScriptMachine

def Opcode.computing : List Opcode := [.eq, .ne, .lt, .le, .gt, .ge, .add, .sub, .mul, .div,
  .modulus, .bitAnd, .bitOr, .bitXor, .concat, .bitNot, .floor, .negate]

def Opcode.mayRaise (op : Opcode) : Fault → Bool
  | .stackUnderflow | .typeMismatch .. => true
  | .addressOutOfRange _ => op ∈ [.pushInt, .pushFloat, .pushString, .jump, .jumpUnless,
      .loopUnless, .call, .ret, .exitProg]
  | .divisionByZero => op ∈ [.div, .modulus]
  | .localOutOfRange .. => op ∈ [.localVar, .setLocalVar]
  | .slotOutOfRange _ => op ∈ [.fetch, .store, .fetchGlobal, .storeGlobal, .popBase, .ret]
  | .unresolvedString _ => op = .pushString
  | .unknownProcedure _ => op ∈ [.call, .checkArgCount, .lookupStringProc]
  | .argumentCountMismatch .. => op = .checkArgCount
  | .value e => e ≠ .divisionByZero ∧ op ∈ Opcode.computing
  | .unknownOpcode _ | .tickLimitExceeded _ => false

section

variable {σ α β : Type}

def Raises (P : Fault → Prop) (x : EStateM Fault σ α) : Prop := ∀ s e s', x s = .error e s' → P e

variable {P : Fault → Prop}

theorem raises_pure (a : α) : Raises P (pure a : EStateM Fault σ α) := nofun

theorem raises_throw {e : Fault} (h : P e) : Raises P (throw e : EStateM Fault σ α) := by
  intro s _ _ hx
  cases hx
  exact h

theorem raises_modify (f : σ → σ) : Raises P (modify f : EStateM Fault σ Unit) := nofun

theorem raises_get : Raises P (get : EStateM Fault σ σ) := nofun

theorem raises_set (s : σ) : Raises P (set s : EStateM Fault σ PUnit) := nofun

theorem Raises.bind {x : EStateM Fault σ α} {k : α → EStateM Fault σ β} (hx : Raises P x)
    (hk : ∀ a, Raises P (k a)) : Raises P (x >>= k) := by
  intro s e s' h
  cases hfirst : x s with
  | ok a s₁ =>
    rw [bind_of_ok hfirst] at h
    exact hk a s₁ e s' h
  | error e₁ s₁ =>
    rw [bind_of_error hfirst] at h
    cases h
    exact hx s e s' hfirst

theorem Raises.discard {x : EStateM Fault σ α} (hx : Raises P x) : Raises P (discard x) := by
  intro s e s' h
  change EStateM.map (fun _ => PUnit.unit) x s = .error e s' at h
  rw [EStateM.map] at h
  cases hfirst : x s with
  | ok a s₁ =>
    rw [hfirst] at h
    contradiction
  | error e₁ s₁ =>
    rw [hfirst] at h
    cases h
    exact hx s e s' hfirst

theorem Raises.ite {c : Prop} [Decidable c] {x y : EStateM Fault σ α} (hx : Raises P x)
    (hy : Raises P y) : Raises P (if c then x else y) := by
  split
  · exact hx
  · exact hy

theorem Raises.guard {c : Prop} [Decidable c] {e : Fault} {x : EStateM Fault σ α} (he : P e)
    (hx : Raises P x) :
    Raises P (if c then (throw e : EStateM Fault σ Unit) >>= fun _ => x
      else pure () >>= fun _ => x) :=
  .ite (.bind (raises_throw he) fun _ => hx) (.bind (raises_pure ()) fun _ => hx)

end

namespace Stack

variable {op : Opcode}

theorem raises_push (v : Value) : Raises (op.mayRaise ·) (push v) := raises_modify _

theorem raises_pop : Raises (op.mayRaise ·) pop := by
  refine .bind raises_get fun s => ?_
  cases s with
  | nil => exact raises_throw rfl
  | cons v rest => exact .bind (raises_set rest) fun _ => raises_pure v

theorem raises_top : Raises (op.mayRaise ·) top := by
  refine .bind raises_get fun s => ?_
  cases s with
  | nil => exact raises_throw rfl
  | cons v rest => exact raises_pure v

theorem raises_dropMany (n : Nat) : Raises (op.mayRaise ·) (dropMany n) :=
  .bind raises_get fun _ => .bind (raises_set _) fun _ => .ite (raises_throw rfl) (raises_pure ())

theorem raises_popAs {α : Type} (expected : Expectation) (view : Value → Option α) :
    Raises (op.mayRaise ·) (popAs expected view) := by
  refine .bind raises_pop fun v => ?_
  cases view v with
  | some a => exact raises_pure a
  | none => exact raises_throw rfl

theorem raises_popLogical : Raises (op.mayRaise ·) popLogical := by
  rw [popLogical, map_eq_pure_bind]
  exact .bind raises_pop fun _ => raises_pure _

theorem raises_slot (h : op.mayRaise (.slotOutOfRange 0)) (index : Nat) :
    Raises (op.mayRaise ·) (slot index) := by
  refine .bind raises_get fun s => ?_
  cases s.bottomUp[index]? with
  | some v => exact raises_pure v
  | none => exact raises_throw h

theorem raises_setSlot (h : op.mayRaise (.slotOutOfRange 0)) (index : Nat) (v : Value) :
    Raises (op.mayRaise ·) (setSlot index v) :=
  .bind raises_get fun _ => .ite (raises_set _) (raises_throw h)

end Stack

namespace Exec

open Stack

variable {α β : Type} {op : Opcode} {P : Fault → Prop}

theorem raises_onData {f : Stack.Work α} (h : Raises P f) : Raises P (onData f) := by
  intro m e m' hx
  rw [onData] at hx
  cases hf : f m.data with
  | ok a s =>
    rw [hf] at hx
    contradiction
  | error e s =>
    rw [hf] at hx
    cases hx
    exact h _ _ _ hf

theorem raises_onCalls {f : Stack.Work α} (h : Raises P f) : Raises P (onCalls f) := by
  intro m e m' hx
  rw [onCalls] at hx
  cases hf : f m.calls with
  | ok a s =>
    rw [hf] at hx
    contradiction
  | error e s =>
    rw [hf] at hx
    cases hx
    exact h _ _ _ hf

theorem raises_next {x : Exec Unit} (h : Raises P x) : Raises P (next x) :=
  h.bind fun _ => raises_pure _

theorem raises_pop : Raises (op.mayRaise ·) pop := raises_onData Stack.raises_pop

theorem raises_popInteger : Raises (op.mayRaise ·) popInteger := raises_onData (raises_popAs _ _)

theorem raises_popString : Raises (op.mayRaise ·) popString := raises_onData (raises_popAs _ _)

theorem raises_popObject : Raises (op.mayRaise ·) popObject := raises_onData (raises_popAs _ _)

theorem raises_popLogical : Raises (op.mayRaise ·) popLogical :=
  raises_onData Stack.raises_popLogical

theorem raises_push (v : Value) : Raises (op.mayRaise ·) (push v) :=
  raises_onData (Stack.raises_push v)

theorem raises_jump (h : op.mayRaise (.addressOutOfRange 0)) (code : Array UInt8)
    (address : Int64) : Raises (op.mayRaise ·) (jump code address) :=
  .ite (raises_modify _) (raises_throw h)

theorem raises_operand (h : op.mayRaise (.addressOutOfRange 0)) (code : Array UInt8)
    (f : Reader.Work α) : Raises (op.mayRaise ·) (operand code f) := by
  intro m e m' hx
  rw [operand] at hx
  cases hf : f (m.reader code) with
  | ok a r =>
    rw [hf] at hx
    contradiction
  | error _ r =>
    rw [hf] at hx
    cases hx
    exact h

theorem raises_literal (h : op.mayRaise (.addressOutOfRange 0)) (code : Array UInt8)
    (f : Reader.Work α) (view : α → Value) :
    Raises (op.mayRaise ·) (literal code f view) :=
  .bind (raises_operand h code f) fun _ => raises_push _

theorem raises_slotAt (h : op.mayRaise (.slotOutOfRange 0)) (base : Nat) (offset : Int64) :
    Raises (op.mayRaise ·) (slotAt base offset) :=
  .ite (raises_pure _) (raises_throw h)

theorem raises_localIndex (h : op.mayRaise (.localOutOfRange 0 0)) (index : Int64) :
    Raises (op.mayRaise ·) (localIndex index) :=
  .bind raises_get fun _ => .ite (raises_pure _) (raises_throw h)

theorem raises_procedureAt (h : op.mayRaise (.unknownProcedure "")) (script : Container)
    (index : Int64) : Raises (op.mayRaise ·) (procedureAt script index) := by
  rw [procedureAt]
  cases if 0 ≤ index.toInt then script.procedureAt? index.toInt.toNat else none with
  | some p => exact raises_pure p
  | none => exact raises_throw h

/-- A refused division is the one refusal that is no fault of values. -/
theorem mayRaise_ofValue {e : ValueError} (computes : op ∈ Opcode.computing)
    (h : e = .divisionByZero → op ∈ [.div, .modulus]) : op.mayRaise (.ofValue e) := by
  cases e with
  | divisionByZero => exact decide_eq_true (h rfl)
  | operands | operand | overflow => exact decide_eq_true ⟨nofun, computes⟩

theorem raises_ofValue (computes : op ∈ Opcode.computing) {answer : Except ValueError α}
    (h : answer = .error .divisionByZero → op ∈ [.div, .modulus]) :
    Raises (op.mayRaise ·) (ofValue answer) := by
  cases answer with
  | ok a => exact raises_pure a
  | error e => exact raises_throw (mayRaise_ofValue computes fun zero => h (by rw [zero]))

theorem raises_binary (computes : op ∈ Opcode.computing)
    {f : Value → Value → Except ValueError Value}
    (h : ∀ a b, f a b = .error .divisionByZero → op ∈ [.div, .modulus]) :
    Raises (op.mayRaise ·) (binary f) :=
  .bind raises_pop fun b => .bind raises_pop fun a =>
    .bind (raises_ofValue computes (h a b)) fun _ => raises_push _

theorem raises_unary (computes : op ∈ Opcode.computing) {f : Value → Except ValueError Value}
    (h : ∀ v, f v ≠ .error .divisionByZero) : Raises (op.mayRaise ·) (unary f) :=
  .bind raises_pop fun v =>
    .bind (raises_ofValue computes fun zero => absurd zero (h v)) fun _ => raises_push _

theorem map_ne_divisionByZero {answer : Except ValueError α} (f : α → β)
    (h : answer ≠ .error .divisionByZero) : answer.map f ≠ .error .divisionByZero := by
  cases answer with
  | ok a => nofun
  | error e => simpa [Except.map] using h

theorem raises_equality (computes : op ∈ Opcode.computing) (holds : Bool → Bool) :
    Raises (op.mayRaise ·) (equality holds) :=
  raises_binary computes fun a b zero =>
    absurd zero (map_ne_divisionByZero _ (a.equal_ne_divisionByZero b))

theorem raises_ordering (computes : op ∈ Opcode.computing) (holds : Ordering → Bool) :
    Raises (op.mayRaise ·) (ordering holds) :=
  raises_binary computes fun a b zero =>
    absurd zero (map_ne_divisionByZero _ (a.compare_ne_divisionByZero b))

theorem raises_pushString (script : Container) :
    Raises (Opcode.pushString.mayRaise ·) (pushString script) := by
  refine .bind (raises_operand rfl _ _) fun offset => .bind raises_get fun m => ?_
  cases if beforeVariableName m script.code then script.identifier? offset
    else script.string? offset with
  | some s => exact raises_push _
  | none => exact raises_throw rfl

theorem raises_lookupProcedure (script : Container) :
    Raises (Opcode.lookupStringProc.mayRaise ·) (lookupProcedure script) := by
  refine .bind raises_popString fun name => ?_
  cases script.index? name with
  | some index => exact raises_push _
  | none => exact raises_throw rfl

theorem raises_pushBase : Raises (op.mayRaise ·) pushBase := by
  refine .bind (raises_onData raises_top) fun top => .bind raises_get fun m => ?_
  cases top with
  | int n =>
    exact .guard rfl (.guard rfl (.bind (raises_onCalls (Stack.raises_push _)) fun _ =>
      raises_modify _))
  | none | float | text | object => exact raises_throw rfl

theorem raises_storeSlot (h : op.mayRaise (.slotOutOfRange 0)) (base : Machine → Nat) :
    Raises (op.mayRaise ·) (storeSlot base) :=
  .bind raises_popInteger fun _ => .bind raises_pop fun _ => .bind raises_get fun _ =>
    .bind (raises_slotAt h _ _) fun _ => raises_onData (raises_setSlot h _ _)

theorem raises_fetchSlot (h : op.mayRaise (.slotOutOfRange 0)) (base : Machine → Nat) :
    Raises (op.mayRaise ·) (fetchSlot base) :=
  .bind raises_popInteger fun _ => .bind raises_get fun _ => .bind (raises_slotAt h _ _) fun _ =>
    .bind (raises_onData (raises_slot h _)) fun _ => raises_push _

theorem raises_perform (script : Container) (op : Opcode) :
    Raises (op.mayRaise ·) (perform script op) := by
  cases op with
  | noop | exit => exact raises_pure _
  | pushInt | pushFloat => exact raises_next (raises_literal rfl _ _ _)
  | pushString => exact raises_next (raises_pushString script)
  | lookupStringProc => exact raises_next (raises_lookupProcedure script)
  | pushBase => exact raises_next raises_pushBase
  | pop => exact raises_next raises_pop.discard
  | dup => exact raises_next (.bind (raises_onData raises_top) fun _ => raises_push _)
  | swap =>
    exact raises_next (.bind raises_pop fun _ => .bind raises_pop fun _ =>
      .bind (raises_push _) fun _ => raises_push _)
  | dataToReturn =>
    exact raises_next (.bind raises_pop fun _ => raises_onCalls (Stack.raises_push _))
  | returnToData =>
    exact raises_next (.bind (raises_onCalls Stack.raises_pop) fun _ => raises_push _)
  | criticalStart | criticalDone | popToBase | setGlobal | scriptOverrides =>
    exact raises_next (raises_modify _)
  | jump => exact raises_next (.bind raises_popInteger fun _ => raises_jump rfl _ _)
  | jumpUnless | loopUnless =>
    exact raises_next (.bind raises_popLogical fun _ => .bind raises_popInteger fun _ =>
      .ite (raises_pure _) (raises_jump rfl _ _))
  | call =>
    refine .bind ?_ fun _ => raises_pure _
    exact .bind raises_popInteger fun _ => .bind (raises_procedureAt rfl _ _) fun _ =>
      .bind raises_get fun _ => .bind (raises_onCalls (Stack.raises_push _)) fun _ =>
        .bind (raises_jump rfl _ _) fun _ => raises_pure _
  | ret =>
    exact raises_next (.bind raises_pop fun _ => .bind raises_popInteger fun _ => .guard rfl
      (.bind (raises_onData (raises_dropMany _)) fun _ =>
        .bind (raises_onCalls (raises_popAs _ _)) fun _ => .bind (raises_push _) fun _ =>
          raises_jump rfl _ _))
  | exitProg => exact raises_next (.bind (raises_modify _) fun _ => raises_jump rfl _ _)
  | checkArgCount =>
    exact raises_next (.bind raises_popInteger fun _ => .bind raises_popInteger fun _ =>
      .bind (raises_procedureAt rfl _ _) fun _ => .ite (raises_pure _) (raises_throw rfl))
  | popBase =>
    exact raises_next (.bind (raises_onCalls (raises_popAs _ _)) fun _ =>
      .guard rfl (raises_modify _))
  | fetch | fetchGlobal => exact raises_next (raises_fetchSlot rfl _)
  | store | storeGlobal => exact raises_next (raises_storeSlot rfl _)
  | localVar =>
    exact raises_next (.bind raises_popInteger fun _ => .bind (.bind (raises_localIndex rfl _)
      fun _ => .bind raises_get fun _ => raises_pure _) fun _ => raises_push _)
  | setLocalVar =>
    exact raises_next (.bind raises_pop fun _ => .bind raises_popInteger fun _ =>
      .bind (raises_localIndex rfl _) fun _ => raises_modify _)
  | eq | ne => exact raises_next (raises_equality (by decide) _)
  | lt | le | gt | ge => exact raises_next (raises_ordering (by decide) _)
  | add =>
    exact raises_next (raises_binary (by decide) fun a b zero =>
      absurd zero (Value.arithmetic_add.ne_divisionByZero a b rfl))
  | sub =>
    exact raises_next (raises_binary (by decide) fun a b zero =>
      absurd zero (Value.arithmetic_sub.ne_divisionByZero a b rfl))
  | mul =>
    exact raises_next (raises_binary (by decide) fun a b zero =>
      absurd zero (Value.arithmetic_mul.ne_divisionByZero a b rfl))
  | div | modulus => exact raises_next (raises_binary (by decide) fun _ _ _ => by decide)
  | bitAnd | bitOr | bitXor =>
    exact raises_next (raises_binary (by decide) fun a b zero =>
      absurd zero (Value.bitwise_ne_divisionByZero a b _ _))
  | concat =>
    exact raises_next (raises_binary (by decide) fun a b zero =>
      absurd zero (Value.concat_ne_divisionByZero a b))
  | bitNot => exact raises_next (raises_unary (by decide) Value.bitnot_ne_divisionByZero)
  | floor => exact raises_next (raises_unary (by decide) Value.floor_ne_divisionByZero)
  | negate => exact raises_next (raises_unary (by decide) Value.negative_ne_divisionByZero)
  | and | or =>
    exact raises_next (.bind raises_popLogical fun _ => .bind raises_popLogical fun _ =>
      raises_push _)
  | not => exact raises_next (.bind raises_popLogical fun _ => raises_push _)
  | random => exact .bind raises_popInteger fun _ => .bind raises_popInteger fun _ => raises_pure _
  | selfObj | sourceObj | targetObj | fixedParam | usedSkill =>
    exact raises_next (.bind raises_get fun _ => raises_push _)
  | dudeObj => exact raises_pure _
  | fetchExternal | exportVar => exact .bind raises_popString fun _ => raises_pure _
  | storeExternal => exact .bind raises_popString fun _ => .bind raises_pop fun _ => raises_pure _
  | mapVar | globalVar => exact .bind raises_popInteger fun _ => raises_pure _
  | setMapVar | setGlobalVar =>
    exact .bind raises_pop fun _ => .bind raises_popInteger fun _ => raises_pure _
  | giveExpPoints | playMovie =>
    exact .bind raises_popInteger fun _ => .bind raises_get fun _ => raises_pure _
  | playSfx | displayMsg =>
    exact .bind raises_popString fun _ => .bind raises_get fun _ => raises_pure _
  | objName | objType => exact .bind raises_popObject fun _ => raises_pure _
  | getCritterStat =>
    exact .bind raises_popInteger fun _ => .bind raises_popObject fun _ => raises_pure _
  | setCritterStat =>
    exact .bind raises_popInteger fun _ => .bind raises_popInteger fun _ =>
      .bind raises_popObject fun _ => raises_pure _
  | messageStr | messageSpeech =>
    exact .bind raises_popInteger fun _ => .bind raises_popInteger fun _ => raises_pure _
  | callScriptProcedure =>
    exact .bind raises_popString fun _ => .bind raises_popInteger fun _ => .bind raises_get fun _ =>
      raises_pure _

theorem binary_divisionByZero_iff {f : Value → Value → Except ValueError Value} {m : Machine} :
    (∃ m', binary f m = .error .divisionByZero m') ↔
      ∃ a b rest, m.data = b :: a :: rest ∧ f a b = .error .divisionByZero := by
  constructor
  · rintro ⟨m', h⟩
    match hdata : m.data with
    | [] =>
      rw [binary, bind_of_error (pop_of_nil hdata)] at h
      cases h
    | [b] =>
      rw [binary, bind_of_ok (pop_eq_ok.mpr ⟨[], hdata, rfl⟩), bind_of_error (pop_of_nil rfl)] at h
      cases h
    | b :: a :: rest =>
      rw [binary, bind_of_ok (pop_eq_ok.mpr ⟨a :: rest, hdata, rfl⟩),
        bind_of_ok (pop_eq_ok.mpr ⟨rest, rfl, rfl⟩)] at h
      refine ⟨a, b, rest, rfl, ?_⟩
      cases hf : f a b with
      | ok v =>
        rw [hf] at h
        cases h
      | error e =>
        rw [hf] at h
        cases e with
        | divisionByZero => rfl
        | operands | operand | overflow => cases h
  · rintro ⟨a, b, rest, hdata, h⟩
    refine ⟨{ m with data := rest }, ?_⟩
    rw [binary, bind_of_ok (pop_eq_ok.mpr ⟨a :: rest, hdata, rfl⟩),
      bind_of_ok (pop_eq_ok.mpr ⟨rest, rfl, rfl⟩), h]
    rfl

end Exec

namespace Machine

open Exec

variable {σ : Type}

theorem execute_divisionByZero_iff {script : Container} {host : Host σ} {op : Opcode} {m : Machine}
    {w : World σ} : (m.execute script host op.code w).1 = .failed .divisionByZero ↔
      (op = .div ∨ op = .modulus) ∧ ∃ a b rest, m.data = b :: a :: rest ∧
        a.kind.isNumeric ∧ (b = .int 0 ∨ b = .float 0 ∨ b = .float (-0)) := by
  rw [execute_failed_iff]
  by_cases division : op = .div ∨ op = .modulus
  · rcases division with rfl | rfl
    · simp [perform, next_eq_error, binary_divisionByZero_iff, Value.arithmetic_div.zeroDivisor,
        Operation.divides]
    · simp [perform, next_eq_error, binary_divisionByZero_iff,
        Value.arithmetic_modulus.zeroDivisor, Operation.divides]
  · refine iff_of_false ?_ fun h => division h.1
    rintro ⟨m', h⟩
    have raised := raises_perform script op m _ m' h
    simp [Opcode.mayRaise, division] at raised

theorem step_ne_refused_division (script : Container) (host : Host σ) (m : Machine) (w : World σ) :
    (m.step script host w).1 ≠ .failed (.value .divisionByZero) := by
  rw [step]
  cases Reader.uint16 (m.reader script.code) with
  | error e r => simp
  | ok code r =>
    cases hop : Opcode.ofCode? code with
    | none => simp [execute_of_none _ _ _ hop]
    | some op =>
      obtain rfl := Opcode.code_of_ofCode? hop
      intro h
      obtain ⟨m', h⟩ := execute_failed_iff.mp h
      have raised := raises_perform script op _ _ m' h
      simp [Opcode.mayRaise] at raised

/-- Arithmetic is exact or refused, which refusal depends on the operands alone, and a division
by zero is always reported as such. -/
theorem arithmetic_exact_or_refused :
    (∀ l r : Int64,
      Value.Exact .add (l.toInt + r.toInt) (Value.add (.int l) (.int r)) ∧
      Value.Exact .sub (l.toInt - r.toInt) (Value.sub (.int l) (.int r)) ∧
      Value.Exact .mul (l.toInt * r.toInt) (Value.mul (.int l) (.int r)) ∧
      (r ≠ 0 → Value.Divided l r (Value.div (.int l) (.int r)) (Value.modulus (.int l) (.int r)))) ∧
    (∀ n : Int64,
      Value.Exact .negative (-n.toInt) (Value.negative (.int n)) ∧
      (Value.negative (.int n) = .error (.overflow .negative) ↔ n = Int64.minValue) ∧
      ∃ k : Int64, Value.bitnot (.int n) = .ok (.int k) ∧ k.toInt = -n.toInt - 1) ∧
    (Value.Arithmetic .add Value.add ∧ Value.Arithmetic .sub Value.sub ∧
      Value.Arithmetic .mul Value.mul ∧ Value.Arithmetic .div Value.div ∧
      Value.Arithmetic .modulus Value.modulus) ∧
    ∀ (σ : Type) (script : Container) (host : Host σ) (m : Machine) (w : World σ),
      (m.step script host w).1 ≠ .failed (.value .divisionByZero) ∧
      ∀ op : Opcode, (m.execute script host op.code w).1 = .failed .divisionByZero ↔
        (op = .div ∨ op = .modulus) ∧ ∃ a b rest, m.data = b :: a :: rest ∧
          a.kind.isNumeric ∧ (b = .int 0 ∨ b = .float 0 ∨ b = .float (-0)) := by
  refine ⟨?integers, ?signs, ?kinds, ?instructions⟩
  case integers =>
    intro l r
    exact ⟨Value.checked_exact .add _, Value.checked_exact .sub _, Value.checked_exact .mul _,
      Value.divided⟩
  case signs =>
    intro n
    exact ⟨Value.checked_exact .negative _, Value.negative_eq_overflow_iff n, ~~~n, rfl,
      Value.toInt_complement n⟩
  case kinds =>
    exact ⟨Value.arithmetic_add, Value.arithmetic_sub, Value.arithmetic_mul, Value.arithmetic_div,
      Value.arithmetic_modulus⟩
  case instructions =>
    intro σ script host m w
    exact ⟨step_ne_refused_division script host m w, fun op => execute_divisionByZero_iff⟩

end Machine

end ScriptMachine
