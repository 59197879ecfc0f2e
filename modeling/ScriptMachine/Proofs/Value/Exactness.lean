import Mathlib
import ScriptMachine.Proofs.Value.Order
import ScriptMachine.Value.Text

/-!
# Exact arithmetic

An operation on integers returns the exact result, or no integer is the exact result. Which
refusal two operands meet depends on their kinds first, then on the divisor, and only then on
the size of the result.
-/

namespace ScriptMachine

def Operation.divides : Operation → Bool
  | .div | .modulus => true
  | _ => false

namespace Value

inductive Exact (op : Operation) (n : Int) : Except ValueError Value → Prop where
  | fits (k : Int64) : k.toInt = n → Exact op n (.ok (.int k))
  | overflows : (∀ k : Int64, k.toInt ≠ n) → Exact op n (.error (.overflow op))

theorem toInt_ofInt_of_fits {n : Int}
    (fits : Int64.minValue.toInt ≤ n ∧ n ≤ Int64.maxValue.toInt) : (Int64.ofInt n).toInt = n :=
  Int64.toInt_ofInt_of_le fits.1 (Int.lt_of_le_of_lt fits.2 (by decide))

theorem checked_exact (op : Operation) (n : Int) : Exact op n (checked op n) := by
  rw [checked]
  split
  · rename_i fits
    exact .fits (.ofInt n) (toInt_ofInt_of_fits fits)
  · rename_i large
    refine .overflows fun k hk => large ?_
    rw [← hk]
    exact ⟨k.minValue_le_toInt, k.toInt_le⟩

theorem negative_eq_overflow_iff (n : Int64) :
    negative (.int n) = .error (.overflow .negative) ↔ n = Int64.minValue := by
  have least := n.minValue_le_toInt
  have greatest := n.toInt_le
  have hmin : Int64.minValue.toInt = -2 ^ 63 := rfl
  have hmax : Int64.maxValue.toInt = 2 ^ 63 - 1 := rfl
  rw [negative, checked, ← Int64.toInt_inj]
  split
  · simp only [reduceCtorEq, false_iff]
    omega
  · simp only [true_iff]
    omega

theorem toInt_complement (n : Int64) : (~~~n).toInt = -n.toInt - 1 := by
  have least := n.le_toInt
  have greatest := n.toInt_lt
  rw [Int64.toInt_not, Int.bmod_eq_of_le] <;> omega

/-- The quotient and the remainder of two integers. The least integer has no quotient by
minus one. -/
inductive Divided (l r : Int64) : Except ValueError Value → Except ValueError Value → Prop where
  | exact (q m : Int64) : ¬ (l = Int64.minValue ∧ r = -1) →
      l.toInt = q.toInt * r.toInt + m.toInt → |m.toInt| < |r.toInt| →
      m = 0 ∨ m.toInt.sign = l.toInt.sign → Divided l r (.ok (.int q)) (.ok (.int m))
  | overflows : l = Int64.minValue → r = -1 →
      Divided l r (.error (.overflow .div)) (.error (.overflow .modulus))

theorem tdiv_fits {l r : Int64} (h : ¬ (l = Int64.minValue ∧ r = -1)) :
    Int64.minValue.toInt ≤ l.toInt.tdiv r.toInt ∧ l.toInt.tdiv r.toInt ≤ Int64.maxValue.toInt := by
  have quotient : (l / r).toInt = l.toInt.tdiv r.toInt := by
    rcases not_and_or.mp h with hl | hr
    · exact Int64.toInt_div_of_ne_left l r hl
    · exact Int64.toInt_div_of_ne_right l r hr
  rw [← quotient]
  exact ⟨(l / r).minValue_le_toInt, (l / r).toInt_le⟩

theorem divided {l r : Int64} (hr : r ≠ 0) :
    Divided l r (div (.int l) (.int r)) (modulus (.int l) (.int r)) := by
  simp only [div, modulus, dividing, kind, Kind.isNumeric, isZero, Bool.true_and, beq_iff_eq, hr,
    if_false, checked]
  by_cases least : l = Int64.minValue ∧ r = -1
  · obtain ⟨rfl, rfl⟩ := least
    exact .overflows rfl rfl
  · have fits := tdiv_fits least
    have remainder : (Int64.ofInt (l.toInt.tmod r.toInt)).toInt = l.toInt.tmod r.toInt := by
      rw [← Int64.toInt_mod, Int64.ofInt_toInt]
    simp only [fits, and_self, if_true]
    refine .exact _ _ least ?_ ?_ ?_
    · rw [toInt_ofInt_of_fits fits, remainder, Int.tdiv_mul_add_tmod]
    · have hr : r.toInt ≠ 0 := fun zero => hr (Int64.toInt_inj.mp zero)
      rw [remainder, Int.abs_eq_natAbs, Int.abs_eq_natAbs, Int.natAbs_tmod]
      exact_mod_cast Nat.mod_lt _ (Int.natAbs_pos.mpr hr)
    · rw [← Int64.toInt_inj, remainder, Int64.toInt_zero, ← Int.sign_eq_zero_iff_zero,
        Int.sign_tmod]
      split
      · exact .inl rfl
      · exact .inr rfl

theorem isZero_iff (v : Value) :
    v.isZero = true ↔ v = .int 0 ∨ v = .float 0 ∨ v = .float (-0) := by
  cases v with
  | int n => simp [isZero]
  | float x =>
    simp [isZero, Float64.isZero_iff]
  | none | text | object => simp [isZero]

theorem isNumeric_of_isZero {v : Value} (h : v.isZero = true) : v.kind.isNumeric = true := by
  cases v with
  | int | float => rfl
  | none | text | object => contradiction

inductive Answers (op : Operation) (a b : Value) : Except ValueError Value → Prop where
  | mismatch : ¬ (a.kind.isNumeric ∧ b.kind.isNumeric) →
      Answers op a b (.error (.operands op a.kind b.kind))
  | zeroDivisor : op.divides → a.kind.isNumeric → b.isZero → Answers op a b (.error .divisionByZero)
  | overflow : a.kind = .int ∧ b.kind = .int → ¬ (op.divides ∧ b.isZero) →
      Answers op a b (.error (.overflow op))
  | int (k : Int64) : a.kind = .int ∧ b.kind = .int → ¬ (op.divides ∧ b.isZero) →
      Answers op a b (.ok (.int k))
  | float (x : Double) : a.kind.isNumeric ∧ b.kind.isNumeric → a.kind = .float ∨ b.kind = .float →
      ¬ (op.divides ∧ b.isZero) → Answers op a b (.ok (.float x))

section

variable {op : Operation} {a b : Value}

theorem Answers.of_exact {n : Int} {answer : Except ValueError Value} (h : Exact op n answer)
    (integers : a.kind = .int ∧ b.kind = .int) (divisor : ¬ (op.divides ∧ b.isZero)) :
    Answers op a b answer := by
  cases h with
  | fits k => exact .int k integers divisor
  | overflows => exact .overflow integers divisor

def onNumbers (op : Operation) (exact : Int64 → Int64 → Except ValueError Value)
    (rounded : Double → Double → Double) (a b : Value) : Except ValueError Value :=
  match a, b with
  | .int l, .int r => exact l r
  | .float l, .float r => .ok (.float (rounded l r))
  | .float l, .int r => .ok (.float (rounded l (promote r)))
  | .int l, .float r => .ok (.float (rounded (promote l) r))
  | _, _ => mismatch op a b

theorem numeric_eq (op : Operation) (exact : Int → Int → Int) (rounded : Double → Double → Double) :
    numeric op exact rounded =
      onNumbers op (fun l r => checked op (exact l.toInt r.toInt)) rounded := rfl

theorem dividing_eq (op : Operation) (exact : Int64 → Int64 → Except ValueError Value)
    (rounded : Double → Double → Double) (a b : Value) :
    dividing op exact rounded a b =
      if a.kind.isNumeric && b.isZero then .error .divisionByZero
      else onNumbers op exact rounded a b := rfl

theorem answers_onNumbers {exact : Int64 → Int64 → Except ValueError Value}
    (rounded : Double → Double → Double) (divisor : a.kind.isNumeric → ¬ (op.divides ∧ b.isZero))
    (integers : ∀ l r, a = .int l → b = .int r → Answers op a b (exact l r)) :
    Answers op a b (onNumbers op exact rounded a b) := by
  cases a with
  | int l =>
    cases b with
    | int r => exact integers l r rfl rfl
    | float y => exact .float _ ⟨rfl, rfl⟩ (.inr rfl) (divisor rfl)
    | none | text | object => exact .mismatch nofun
  | float x =>
    cases b with
    | int | float => exact .float _ ⟨rfl, rfl⟩ (.inl rfl) (divisor rfl)
    | none | text | object => exact .mismatch nofun
  | none | text | object => exact .mismatch nofun

theorem answers_numeric {exact : Int → Int → Int} {rounded : Double → Double → Double}
    (undivided : op.divides = false) : Answers op a b (numeric op exact rounded a b) := by
  have divisor : ¬ (op.divides ∧ b.isZero) := by simp [undivided]
  rw [numeric_eq]
  refine answers_onNumbers rounded (fun _ => divisor) ?_
  rintro l r rfl rfl
  exact .of_exact (checked_exact op _) ⟨rfl, rfl⟩ divisor

theorem answers_dividing {exact : Int64 → Int64 → Except ValueError Value}
    {rounded : Double → Double → Double} (divides : op.divides = true)
    (integers : ∀ l r, r ≠ 0 → Answers op (.int l) (.int r) (exact l r)) :
    Answers op a b (dividing op exact rounded a b) := by
  rw [dividing_eq]
  split
  · rename_i zero
    rw [Bool.and_eq_true] at zero
    exact .zeroDivisor divides zero.1 zero.2
  · rename_i other
    rw [Bool.and_eq_true, not_and] at other
    refine answers_onNumbers rounded (fun number => not_and.mpr fun _ => other number) ?_
    rintro l r rfl rfl
    exact integers l r fun zero => other rfl (by simp [isZero, zero])

theorem answers_div : Answers .div a b (div a b) := by
  refine answers_dividing rfl fun l r hr => ?_
  exact .of_exact (checked_exact .div _) ⟨rfl, rfl⟩ (by simpa [isZero, Operation.divides] using hr)

theorem answers_modulus : Answers .modulus a b (modulus a b) := by
  refine answers_dividing rfl fun l r hr => ?_
  have divisor : ¬ (Operation.modulus.divides ∧ (Value.int r).isZero) := by
    simpa [isZero, Operation.divides] using hr
  rw [checked]
  split
  · exact .int _ ⟨rfl, rfl⟩ divisor
  · exact .overflow ⟨rfl, rfl⟩ divisor

end

structure Arithmetic (op : Operation) (f : Value → Value → Except ValueError Value) : Prop where
  mismatch (a b : Value) : f a b = .error (.operands op a.kind b.kind) ↔
    ¬ (a.kind.isNumeric ∧ b.kind.isNumeric)
  zeroDivisor (a b : Value) : f a b = .error .divisionByZero ↔
    op.divides ∧ a.kind.isNumeric ∧ (b = .int 0 ∨ b = .float 0 ∨ b = .float (-0))
  refusal (a b : Value) (e : ValueError) : f a b = .error e →
    e = .operands op a.kind b.kind ∨ e = .divisionByZero ∨ e = .overflow op
  result (a b v : Value) : f a b = .ok v → (v.kind = .float ↔ a.kind = .float ∨ b.kind = .float)

theorem Arithmetic.of_answers {op : Operation} {f : Value → Value → Except ValueError Value}
    (h : ∀ a b, Answers op a b (f a b)) : Arithmetic op f where
  mismatch a b := by
    have answers := h a b
    generalize f a b = answer at answers
    cases answers with
    | mismatch kinds => simpa using kinds
    | zeroDivisor _ number zero => simp [number, isNumeric_of_isZero zero]
    | overflow integers => simp [integers, Kind.isNumeric]
    | int _ integers => simp [integers, Kind.isNumeric]
    | float _ numbers => simp [numbers]
  zeroDivisor a b := by
    rw [← isZero_iff]
    have answers := h a b
    generalize f a b = answer at answers
    cases answers with
    | mismatch kinds =>
      simp only [Except.error.injEq, reduceCtorEq, false_iff]
      exact fun ⟨_, number, zero⟩ => kinds ⟨number, isNumeric_of_isZero zero⟩
    | zeroDivisor divides number zero => simp [divides, number, zero]
    | overflow _ divisor | int _ _ divisor | float _ _ _ divisor =>
      simp only [Except.error.injEq, reduceCtorEq, false_iff]
      exact fun ⟨divides, _, zero⟩ => divisor ⟨divides, zero⟩
  refusal a b e hf := by
    have answers := h a b
    rw [hf] at answers
    cases answers <;> simp
  result a b v hf := by
    have answers := h a b
    rw [hf] at answers
    cases answers with
    | int _ integers => exact iff_of_false nofun (by simp [integers])
    | float _ _ floats => exact iff_of_true rfl floats

theorem arithmetic_add : Arithmetic .add add := .of_answers fun _ _ => answers_numeric rfl

theorem arithmetic_sub : Arithmetic .sub sub := .of_answers fun _ _ => answers_numeric rfl

theorem arithmetic_mul : Arithmetic .mul mul := .of_answers fun _ _ => answers_numeric rfl

theorem arithmetic_div : Arithmetic .div div := .of_answers fun _ _ => answers_div

theorem arithmetic_modulus : Arithmetic .modulus modulus := .of_answers fun _ _ => answers_modulus

section

variable (a b : Value)

theorem Arithmetic.ne_divisionByZero {op : Operation} {f : Value → Value → Except ValueError Value}
    (h : Arithmetic op f) (undivided : op.divides = false) : f a b ≠ .error .divisionByZero := by
  simp [h.zeroDivisor, undivided]

theorem bitwise_ne_divisionByZero (op : Operation) (f : Int64 → Int64 → Int64) :
    bitwise op f a b ≠ .error .divisionByZero := by
  cases a <;> cases b <;> nofun

theorem concat_ne_divisionByZero : concat a b ≠ .error .divisionByZero := by
  cases a <;> cases b <;> nofun

theorem equal_ne_divisionByZero : a.equal b ≠ .error .divisionByZero := by
  rw [equal.eq_def]
  grind [mismatch]

theorem compare_ne_divisionByZero : a.compare b ≠ .error .divisionByZero := by
  cases a <;> cases b <;> nofun

theorem negative_ne_divisionByZero : negative a ≠ .error .divisionByZero := by
  cases a with
  | int n =>
    rw [negative, checked]
    split <;> nofun
  | none | float | text | object => nofun

theorem bitnot_ne_divisionByZero : bitnot a ≠ .error .divisionByZero := by
  cases a <;> nofun

theorem floor_ne_divisionByZero : floor a ≠ .error .divisionByZero := by
  cases a <;> nofun

end

end Value

end ScriptMachine
