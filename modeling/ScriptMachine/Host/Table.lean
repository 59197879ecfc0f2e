/-!
# Tables

Finite maps as lists of pairs. A write replaces what was there, so each key occurs once.
-/

namespace ScriptMachine

abbrev Table (κ ν : Type) := List (κ × ν)

namespace Table

variable {κ ν : Type} [DecidableEq κ]

def get? (t : Table κ ν) (k : κ) : Option ν := (t.find? (·.1 = k)).map (·.2)

def put (t : Table κ ν) (k : κ) (v : ν) : Table κ ν := (k, v) :: t.filter (·.1 ≠ k)

/-- Writes only where nothing is stored yet. -/
def putNew (t : Table κ ν) (k : κ) (v : ν) : Table κ ν :=
  if (t.get? k).isSome then t else t.put k v

def ofPairs (pairs : List (κ × ν)) : Table κ ν := pairs.foldl (fun t (k, v) => t.put k v) []

def sorted (t : Table κ ν) (before : κ → κ → Bool) : List (κ × ν) :=
  t.mergeSort fun a b => before a.1 b.1

theorem get?_put (t : Table κ ν) (k j : κ) (v : ν) :
    (t.put k v).get? j = if j = k then some v else t.get? j := by
  by_cases h : j = k
  · subst h; simp [get?, put]
  · have keep : ∀ a : κ × ν, (a.1 ≠ k ∧ a.1 = j) ↔ a.1 = j :=
      fun a => ⟨And.right, fun e => ⟨fun e' => h (e.symm.trans e'), e⟩⟩
    have other : ¬ k = j := fun e => h e.symm
    simp [get?, put, h, other, List.find?_filter, keep]

theorem get?_putNew (t : Table κ ν) (k j : κ) (v : ν) :
    (t.putNew k v).get? j = if j = k then some ((t.get? k).getD v) else t.get? j := by
  by_cases h : j = k
  · subst h
    cases hk : t.get? j <;> simp [putNew, hk, get?_put]
  · cases hk : t.get? k <;> simp [putNew, hk, get?_put, h]

end Table

end ScriptMachine
