import Mathlib.Tactic.Common
import ScriptMachine.Text.Lowercase

/-!
# Lower case and punctuation

A slash and a dot are their own lower-case form, and of no other character. A slash has no
case and is not passed over either, so what stands on one side of it has no say in the
lower-case form of the other.
-/

namespace ScriptMachine.Text

variable {a b cs rest : List Char} {c s : Char}

def IsMark (s : Char) : Prop := s = '/' ∨ s = '.'

theorem toNat_of_isMark (mark : IsMark s) : s.toNat ≤ 0x2F := by
  rcases mark with rfl | rfl <;> decide

theorem lowerRuns_beyond_marks : ∀ r ∈ lowerRuns, 0x2F < (r.first : Int) + r.offset := by
  decide +kernel

theorem toNat_ofNat (n : Nat) : (Char.ofNat n).toNat = n ∨ (Char.ofNat n).toNat = 0 := by
  by_cases valid : n.isValidChar
  · exact .inl (by rw [Char.ofNat, dif_pos valid]; rfl)
  · exact .inr (by rw [Char.ofNat, dif_neg valid]; rfl)

theorem lowerChar_mark (mark : IsMark s) : lowerChar s = s := by
  rcases mark with rfl | rfl <;> decide +kernel

theorem lowerChar_eq_mark (mark : IsMark s) (h : lowerChar c = s) : c = s := by
  rw [lowerChar] at h
  cases hr : lowerRuns.find? (·.covers c.toNat) with
  | none => rwa [hr] at h
  | some r =>
    simp only [hr] at h
    have beyond := lowerRuns_beyond_marks r (List.mem_of_find?_eq_some hr)
    have covers : r.first ≤ c.toNat := by
      have covered := List.find?_some hr
      simp only [CaseRun.covers, Bool.and_eq_true, decide_eq_true_eq] at covered
      exact covered.1.1
    have low := toNat_of_isMark mark
    have positive : 0 < s.toNat := by rcases mark with rfl | rfl <;> decide
    -- The lower-case form would lie behind all marks.
    rw [← h] at low positive
    rcases toNat_ofNat (c.toNat + r.offset).toNat with same | zero <;> omega

/-- The lower-case form of a character between what comes before it and what follows. -/
def lowerAt (before rest : List Char) (c : Char) : List Char :=
  if c = 'Σ' then [if startsCased before && !startsCased rest then 'ς' else 'σ']
  else if c = 'İ' then ['i', '\u0307']
  else [lowerChar c]

theorem lowerFrom_cons (before : List Char) (c : Char) (rest : List Char) :
    lowerFrom before (c :: rest) = lowerAt before rest c ++ lowerFrom (c :: before) rest := rfl

theorem lowerAt_mark (mark : IsMark s) : lowerAt b rest s = [s] := by
  have plain : s ≠ 'Σ' ∧ s ≠ 'İ' := by rcases mark with rfl | rfl <;> decide
  rw [lowerAt, if_neg plain.1, if_neg plain.2, lowerChar_mark mark]

theorem mark_mem_lowerAt (mark : IsMark s) : s ∈ lowerAt b rest c ↔ c = s := by
  constructor
  · intro h
    rw [lowerAt] at h
    split at h
    · rcases mark with rfl | rfl <;> split at h <;> simp at h
    · split at h
      · rcases mark with rfl | rfl <;> simp at h
      · exact lowerChar_eq_mark mark (List.mem_singleton.mp h).symm
  · rintro rfl
    simp [lowerAt_mark mark]

theorem lowerAt_ne_nil : lowerAt b rest c ≠ [] := by
  rw [lowerAt]
  split
  · simp
  · split <;> simp

theorem startsCased_slash (a b : List Char) : startsCased (a ++ '/' :: b) = startsCased a := by
  have ignored : isCaseIgnorable '/' = false := by decide +kernel
  have cased : isCased '/' = false := by decide +kernel
  induction a with
  | nil => simp [startsCased, ignored, cased]
  | cons c a ih =>
    by_cases passed : isCaseIgnorable c = true
    · simpa [startsCased, passed] using ih
    · simp [startsCased, passed]

theorem lowerFrom_behind_slash (b x cs : List Char) :
    lowerFrom (b ++ '/' :: x) cs = lowerFrom b cs := by
  induction cs generalizing b with
  | nil => rfl
  | cons c cs ih => simp only [lowerFrom_cons, lowerAt, startsCased_slash, ← List.cons_append, ih]

/-- The parts of a text between slashes have lower-case forms of their own. -/
theorem lowerFrom_slash (b p more : List Char) :
    lowerFrom b (p ++ '/' :: more) = lowerFrom b p ++ '/' :: lowerFrom [] more := by
  induction p generalizing b with
  | nil =>
    rw [List.nil_append, lowerFrom_cons, lowerAt_mark (.inl rfl)]
    exact congrArg ('/' :: ·) (lowerFrom_behind_slash [] b more)
  | cons c p ih =>
    simp only [List.cons_append, lowerFrom_cons, lowerAt, startsCased_slash, ih, List.append_assoc]

theorem mark_mem_lowerFrom (mark : IsMark s) : s ∈ lowerFrom b cs ↔ s ∈ cs := by
  induction cs generalizing b with
  | nil => rfl
  | cons c cs ih => simp [lowerFrom_cons, mark_mem_lowerAt mark, ih, eq_comm]

theorem lowerFrom_eq_nil : lowerFrom b cs = [] ↔ cs = [] := by
  cases cs with
  | nil => simp [lowerFrom]
  | cons c cs => simp [lowerFrom_cons, lowerAt_ne_nil]

theorem lowerFrom_eq_cons_mark (mark : IsMark s) {x : List Char} :
    lowerFrom b cs = s :: x ↔ ∃ rest, cs = s :: rest ∧ lowerFrom (s :: b) rest = x := by
  cases cs with
  | nil => simp [lowerFrom]
  | cons c cs =>
    rw [lowerFrom_cons]
    constructor
    · intro h
      cases low : lowerAt b cs c with
      | nil => exact absurd low lowerAt_ne_nil
      | cons d more =>
        rw [low, List.cons_append] at h
        obtain rfl := (List.cons.inj h).1
        obtain rfl := (mark_mem_lowerAt mark).mp (low ▸ List.mem_cons_self : d ∈ lowerAt b cs c)
        rw [lowerAt_mark mark] at low
        cases low
        exact ⟨cs, rfl, (List.cons.inj h).2⟩
    · rintro ⟨rest, hcs, rfl⟩
      cases hcs
      rw [lowerAt_mark mark]
      rfl

theorem lowerFrom_dots (n : Nat) :
    lowerFrom b cs = List.replicate n '.' ↔ cs = List.replicate n '.' := by
  induction n generalizing b cs with
  | zero => exact lowerFrom_eq_nil
  | succ n ih =>
    rw [List.replicate_succ, lowerFrom_eq_cons_mark (.inr rfl)]
    constructor
    · rintro ⟨rest, rfl, h⟩
      rw [ih.mp h]
    · rintro rfl
      exact ⟨_, rfl, ih.mpr rfl⟩

end ScriptMachine.Text
