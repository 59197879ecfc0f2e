import ScriptMachine.Proofs.Container.Interning

/-!
# Drafts step by step

A draft is built by adding one thing after the other. Each step answers at most the offset
of one text, and the tables of the draft end up with exactly the answered offsets.
-/

namespace ScriptMachine

open Pool

inductive DraftStep where
  | header (bytes : List UInt8)
  | withoutStrings
  | string (text : String)
  | identifier (name : String)
  | procedure (p : ProcedureDraft)

namespace DraftStep

def procedure? : DraftStep → Option ProcedureDraft
  | .procedure p => some p
  | _ => none

def Plain : DraftStep → Prop
  | .header _ | .withoutStrings => True
  | .string text | .identifier text => text.utf8ByteSize ≤ longest
  | .procedure p => p.name.utf8ByteSize ≤ longest ∧ p.place = none

end DraftStep

namespace Draft

def apply (d : Draft) : DraftStep → Draft
  | .header bytes => { d with header := some bytes }
  | .withoutStrings => { d with withoutStrings := true }
  | .string text => (d.string text).2
  | .identifier name => (d.identifier name).2
  | .procedure p => (d.procedure p).2

def extend (d : Draft) (steps : List DraftStep) : Draft := steps.foldl apply d

def ofSteps (steps : List DraftStep) : Draft := extend {} steps

def pool (d : Draft) : TableName → Pool
  | .identifier => d.identifiers
  | .string => d.strings

/-- A step enters a text into a table, at the offset that interning it answers. The step
that adds a procedure does so with the procedure's name. -/
inductive Issues (d : Draft) : DraftStep → TableName → String → Nat → Prop where
  | string (text : String) : Issues d (.string text) .string text (d.string text).1
  | identifier (name : String) :
      Issues d (.identifier name) .identifier name (d.identifier name).1
  | procedure (p : ProcedureDraft) :
      Issues d (.procedure p) .identifier p.name (d.identifier p.name).1

def IssuedFrom (d : Draft) (steps : List DraftStep) (kind : TableName) (text : String)
    (k : Nat) : Prop :=
  ∃ before step after, steps = before ++ step :: after ∧
    (d.extend before).Issues step kind text k

def Issued (steps : List DraftStep) : TableName → String → Nat → Prop :=
  IssuedFrom {} steps

theorem mem_pool_apply {d : Draft} {s : DraftStep} {kind : TableName} {text : String} {k : Nat} :
    (k, text) ∈ ((d.apply s).pool kind).entries.toList ↔
      (k, text) ∈ (d.pool kind).entries.toList ∨ d.Issues s kind text k := by
  have entered (p : Pool) (t : String) (P : Prop) (h : P ↔ k = (p.intern t).1 ∧ text = t) :
      (k, text) ∈ (p.intern t).2.entries.toList ↔ (k, text) ∈ p.entries.toList ∨ P := by
    rw [mem_entries_intern, h, Prod.mk.injEq]
  have kept (p : Pool) (P : Prop) (h : ¬ P) :
      (k, text) ∈ p.entries.toList ↔ (k, text) ∈ p.entries.toList ∨ P := by
    rw [or_iff_left h]
  -- A step interns one text into one of the tables, or none.
  cases s with
  | header bytes => exact kept _ _ nofun
  | withoutStrings => exact kept _ _ nofun
  | string t =>
    cases kind with
    | identifier => exact kept _ _ nofun
    | string =>
      refine entered d.strings t _ ⟨?_, ?_⟩
      · intro h
        cases h
        exact ⟨rfl, rfl⟩
      · intro h
        obtain ⟨rfl, rfl⟩ := h
        exact .string text
  | identifier t =>
    cases kind with
    | string => exact kept _ _ nofun
    | identifier =>
      refine entered d.identifiers t _ ⟨?_, ?_⟩
      · intro h
        cases h
        exact ⟨rfl, rfl⟩
      · intro h
        obtain ⟨rfl, rfl⟩ := h
        exact .identifier text
  | procedure p =>
    cases kind with
    | string => exact kept _ _ nofun
    | identifier =>
      refine entered d.identifiers p.name _ ⟨?_, ?_⟩
      · intro h
        cases h
        exact ⟨rfl, rfl⟩
      · intro h
        obtain ⟨rfl, rfl⟩ := h
        exact .procedure p

theorem issuedFrom_cons {d : Draft} {s : DraftStep} {steps : List DraftStep} {kind : TableName}
    {text : String} {k : Nat} :
    d.IssuedFrom (s :: steps) kind text k ↔
      d.Issues s kind text k ∨ (d.apply s).IssuedFrom steps kind text k := by
  constructor
  · intro h
    obtain ⟨before, step, after, hsteps, issues⟩ := h
    cases before with
    | nil =>
      obtain ⟨rfl, -⟩ := List.cons.inj hsteps
      exact .inl issues
    | cons first before =>
      obtain ⟨rfl, rfl⟩ := List.cons.inj hsteps
      exact .inr ⟨before, step, after, rfl, issues⟩
  · intro h
    rcases h with issues | ⟨before, step, after, rfl, issues⟩
    · exact ⟨[], s, steps, rfl, issues⟩
    · exact ⟨s :: before, step, after, rfl, issues⟩

theorem mem_pool_extend {d : Draft} {steps : List DraftStep} {kind : TableName} {text : String}
    {k : Nat} :
    (k, text) ∈ ((d.extend steps).pool kind).entries.toList ↔
      (k, text) ∈ (d.pool kind).entries.toList ∨ d.IssuedFrom steps kind text k := by
  induction steps generalizing d with
  | nil =>
    refine ⟨.inl, ?_⟩
    intro h
    rcases h with h | ⟨before, step, after, hsteps, -⟩
    · exact h
    · simp at hsteps
  | cons s steps ih =>
    change (k, text) ∈ (((d.apply s).extend steps).pool kind).entries.toList ↔ _
    rw [ih, mem_pool_apply, issuedFrom_cons, or_assoc]

/-- However many steps follow, the tables hold what was answered and nothing else. -/
theorem mem_pool_ofSteps {steps : List DraftStep} {kind : TableName} {text : String} {k : Nat} :
    (k, text) ∈ ((ofSteps steps).pool kind).entries.toList ↔ Issued steps kind text k := by
  rw [ofSteps, mem_pool_extend, Issued]
  cases kind <;> simp [pool]

structure Tidy (d : Draft) : Prop where
  identifiers : d.identifiers.Coherent
  strings : d.strings.Coherent
  named : ∀ p ∈ d.procedures.toList, p.name ∈ d.identifiers.texts
  unplaced : ∀ p ∈ d.procedures.toList, p.place = none

theorem mem_texts_intern {p : Pool} {text t : String} :
    t ∈ (p.intern text).2.texts ↔ t ∈ p.texts ∨ t = text := by
  simp only [texts, List.mem_map, mem_entries_intern]
  constructor
  · intro h
    obtain ⟨e, he | rfl, rfl⟩ := h
    · exact .inl ⟨e, he, rfl⟩
    · exact .inr rfl
  · intro h
    rcases h with ⟨e, he, rfl⟩ | rfl
    · exact ⟨e, .inl he, rfl⟩
    · exact ⟨_, .inr rfl, rfl⟩

theorem Tidy.apply {d : Draft} (h : d.Tidy) {s : DraftStep} (plain : s.Plain) :
    (d.apply s).Tidy := by
  cases s with
  | header bytes => exact ⟨h.identifiers, h.strings, h.named, h.unplaced⟩
  | withoutStrings => exact ⟨h.identifiers, h.strings, h.named, h.unplaced⟩
  | string text => exact ⟨h.identifiers, h.strings.intern plain, h.named, h.unplaced⟩
  | identifier name =>
    refine ⟨h.identifiers.intern plain, h.strings, ?_, h.unplaced⟩
    exact fun p hp => mem_texts_intern.mpr (.inl (h.named p hp))
  | procedure p =>
    obtain ⟨short, unplaced⟩ := plain
    have hprocedures : (d.apply (.procedure p)).procedures.toList =
        d.procedures.toList ++ [p] := Array.toList_push
    refine ⟨h.identifiers.intern short, h.strings, ?_, ?_⟩
    · rw [hprocedures]
      intro q hq
      rcases List.mem_append.mp hq with hq | hq
      · exact mem_texts_intern.mpr (.inl (h.named q hq))
      · rw [List.mem_singleton.mp hq]
        exact mem_texts_intern.mpr (.inr rfl)
    · rw [hprocedures]
      intro q hq
      rcases List.mem_append.mp hq with hq | hq
      · exact h.unplaced q hq
      · rwa [List.mem_singleton.mp hq]

theorem Tidy.extend {d : Draft} (h : d.Tidy) {steps : List DraftStep}
    (plain : ∀ s ∈ steps, s.Plain) : (d.extend steps).Tidy := by
  induction steps generalizing d with
  | nil => exact h
  | cons s steps ih =>
    obtain ⟨first, others⟩ := List.forall_mem_cons.mp plain
    exact ih (h.apply first) others

theorem tidy_ofSteps {steps : List DraftStep} (plain : ∀ s ∈ steps, s.Plain) :
    (ofSteps steps).Tidy :=
  Tidy.extend ⟨coherent_empty, coherent_empty, by simp, by simp⟩ plain

theorem procedures_extend (d : Draft) (steps : List DraftStep) :
    (d.extend steps).procedures.toList =
      d.procedures.toList ++ steps.filterMap DraftStep.procedure? := by
  induction steps generalizing d with
  | nil => exact (List.append_nil _).symm
  | cons s steps ih =>
    change ((d.apply s).extend steps).procedures.toList = _
    rw [ih]
    cases s with
    | procedure p =>
      have hprocedures : (d.apply (.procedure p)).procedures.toList =
          d.procedures.toList ++ [p] := Array.toList_push
      rw [hprocedures, List.append_assoc]
      rfl
    | _ => rfl

theorem procedures_ofSteps (steps : List DraftStep) :
    (ofSteps steps).procedures.toList = steps.filterMap DraftStep.procedure? :=
  procedures_extend {} steps

theorem withoutStrings_extend (d : Draft) (steps : List DraftStep) :
    (d.extend steps).withoutStrings = true ↔
      d.withoutStrings = true ∨ .withoutStrings ∈ steps := by
  induction steps generalizing d with
  | nil => simp [extend]
  | cons s steps ih =>
    change ((d.apply s).extend steps).withoutStrings = true ↔ _
    rw [ih, List.mem_cons]
    cases s <;> simp [apply, string, identifier, procedure]

theorem withoutStrings_ofSteps (steps : List DraftStep) :
    (ofSteps steps).withoutStrings = true ↔ .withoutStrings ∈ steps := by
  rw [ofSteps, withoutStrings_extend]
  simp

end Draft

end ScriptMachine
