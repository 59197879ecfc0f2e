import Mathlib.Tactic.Common
import ScriptMachine.Value.Comparison

/-!
# Equality of integers, text and handles

A value equals itself, and beside that only zero and the handles that name nothing equal
each other. The latter are told apart among themselves, by their generations. So equality
is an equivalence up to zero, which can stand between two of them.
-/

namespace ScriptMachine.Value

def isDiscrete : Value → Bool
  | .int _ | .text _ | .object _ => true
  | .none | .float _ => false

def IsNull (v : Value) : Prop := ∃ h : Handle, v = .object h ∧ h.isNothing = true

variable {a b c : Value}

theorem not_isNull_int (n : Int64) : ¬ IsNull (.int n) := nofun

theorem equal_self (h : a.isDiscrete = true) : a.equal a = .ok true := by
  cases a with
  | int | text | object => simp [equal]
  | none | float => contradiction

/-- The refusal of two kinds names them in order, so only the answers are compared. -/
theorem toOption_equal_comm (ha : a.isDiscrete = true) (hb : b.isDiscrete = true) :
    (a.equal b).toOption = (b.equal a).toOption := by
  cases a with
  | none | float => contradiction
  | int n =>
    cases b with
    | none | float => contradiction
    | int k => rw [equal, equal, BEq.comm]
    | text => rfl
    | object h =>
      simp only [equal]
      split <;> rfl
  | text s =>
    cases b with
    | none | float => contradiction
    | text t => rw [equal, equal, BEq.comm]
    | int | object => rfl
  | object h =>
    cases b with
    | none | float => contradiction
    | int n =>
      simp only [equal]
      split <;> rfl
    | text => rfl
    | object g => rw [equal, equal, BEq.comm]

theorem equal_eq_true_iff (ha : a.isDiscrete = true) (hb : b.isDiscrete = true) :
    a.equal b = .ok true ↔ a = b ∨ a.IsNull ∧ b = .int 0 ∨ a = .int 0 ∧ b.IsNull := by
  cases a with
  | none | float => contradiction
  | int n =>
    cases b with
    | none | float => contradiction
    | int k => simp [equal, IsNull]
    | text => simp [equal, mismatch, IsNull]
    | object h =>
      by_cases hn : n = 0 <;> simp [equal, mismatch, IsNull, hn]
  | text s =>
    cases b with
    | none | float => contradiction
    | text t => simp [equal, IsNull]
    | int | object => simp [equal, mismatch, IsNull]
  | object h =>
    cases b with
    | none | float => contradiction
    | int n =>
      by_cases hn : n = 0 <;> simp [equal, mismatch, IsNull, hn]
    | text => simp [equal, mismatch, IsNull]
    | object g => simp [equal, IsNull]

theorem equal_of_nulls (ha : a.IsNull) (hc : c.IsNull) (apart : a ≠ c) :
    a.equal c = .ok false := by
  obtain ⟨g, rfl, -⟩ := ha
  obtain ⟨h, rfl, -⟩ := hc
  have : g ≠ h := fun heq => apart (by rw [heq])
  simp [equal, this]

/-- Where two values are each equal to a third, they are equal, unless the third is zero and
they are different handles that name nothing. -/
theorem equal_of_equal (ha : a.isDiscrete = true) (hb : b.isDiscrete = true)
    (hc : c.isDiscrete = true) (hab : a.equal b = .ok true) (hbc : b.equal c = .ok true) :
    a.equal c = .ok true ∨ b = .int 0 ∧ a.IsNull ∧ c.IsNull := by
  rcases (equal_eq_true_iff ha hb).mp hab with rfl | ⟨nullA, rfl⟩ | ⟨rfl, nullB⟩
  · exact .inl hbc
  · rcases (equal_eq_true_iff hb hc).mp hbc with rfl | ⟨nullB, -⟩ | ⟨-, nullC⟩
    · exact .inl hab
    · exact absurd nullB (not_isNull_int 0)
    · exact .inr ⟨rfl, nullA, nullC⟩
  · rcases (equal_eq_true_iff hb hc).mp hbc with rfl | ⟨-, rfl⟩ | ⟨rfl, -⟩
    · exact .inl hab
    · exact .inl (equal_self ha)
    · exact absurd nullB (not_isNull_int 0)

/-- The laws of an equivalence, with the one exception to the last of them. -/
theorem equality_laws (ha : a.isDiscrete = true) (hb : b.isDiscrete = true)
    (hc : c.isDiscrete = true) :
    (a.equal b).toOption = (b.equal a).toOption ∧ a.equal a = .ok true ∧
    (a.equal b = .ok true → b.equal c = .ok true →
      ∃ e, a.equal c = .ok e ∧ (e = false ↔ b = .int 0 ∧ a.IsNull ∧ c.IsNull ∧ a ≠ c)) := by
  refine ⟨toOption_equal_comm ha hb, equal_self ha, fun hab hbc => ?_⟩
  by_cases same : a = c
  · exact ⟨true, same ▸ equal_self ha, by simp [same]⟩
  rcases equal_of_equal ha hb hc hab hbc with hac | ⟨rfl, nullA, nullC⟩
  · refine ⟨true, hac, nofun, fun h => ?_⟩
    obtain ⟨-, nullA, nullC, apart⟩ := h
    rw [equal_of_nulls nullA nullC apart] at hac
    cases hac
  · exact ⟨false, equal_of_nulls nullA nullC same, by simp [nullA, nullC, same]⟩

theorem nothing_equality_laws :
    (Value.object .nothing).equal (.int 0) = .ok true ∧
    (Value.int 0).equal (.object .nothing) = .ok true ∧
    ∃ e, (Value.object .nothing).equal (.object .nothing) = .ok e ∧ e ≠ false := by
  have zero : (Value.object .nothing).equal (.int 0) = .ok true := by decide
  have nothing : (Value.int 0).equal (.object .nothing) = .ok true := by decide
  obtain ⟨-, -, transitive⟩ :=
    equality_laws (a := .object .nothing) (b := .int 0) (c := .object .nothing) rfl rfl rfl
  obtain ⟨e, he, apart⟩ := transitive zero nothing
  exact ⟨zero, nothing, e, he, fun h => (apart.mp h).2.2.2 rfl⟩

theorem nulls_apart :
    ¬ ∀ a b c : Value, a.isDiscrete = true → b.isDiscrete = true → c.isDiscrete = true →
      ∀ e, a.equal b = .ok true → b.equal c = .ok true → a.equal c = .ok e → e = true := by
  intro h
  have := h (.object ⟨Handle.reservedIndex, 0⟩) (.int 0) (.object ⟨Handle.reservedIndex, 1⟩)
    rfl rfl rfl false (by decide) (by decide) (by decide)
  contradiction

end ScriptMachine.Value
