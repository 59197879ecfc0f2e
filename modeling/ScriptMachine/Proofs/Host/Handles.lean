import Mathlib.Data.List.Induction
import Mathlib.Data.List.Nodup
import Mathlib.Tactic.Common
import ScriptMachine.Host.Sandbox

/-!
# Handles of the sandbox

A handle resolves where its slot is taken and of its generation. Generations only rise, and a
slot is vacated with a higher one than any handle issued for it has. So what a handle resolves to
is told by the acts on that handle alone, from the spawn that returned it.
-/

namespace ScriptMachine

/-- How many generations of the slot have been in use, the present one among them if the slot is
taken. -/
def Slot.uses (slot : Slot) : Nat := slot.generation.toNat + if slot.entity.isSome then 1 else 0

inductive Property.Takes : Property → Value → Prop
  | name (text : String) : Takes .name (.text text)
  | pid (n : Int64) : Takes .pid (.int n)
  | type (n : Int64) : Takes .type (.int n)
  | stat (index n : Int64) : Takes (.stat index) (.int n)

namespace Entity

def set (e : Entity) : Property → Value → Entity
  | .name, .text name => { e with name }
  | .pid, .int pid => { e with pid }
  | .type, .int kind => { e with kind }
  | .stat index, .int n => { e with stats := e.stats.put index n }
  | _, _ => e

variable {e : Entity} {p q : Property} {v : Value}

theorem write?_of_takes (takes : p.Takes v) : e.write? p v = some (e.set p v) := by
  cases takes <;> rfl

theorem write?_of_not_takes (refused : ¬ p.Takes v) : e.write? p v = none := by
  cases p <;> cases v <;> first | rfl | exact absurd (by constructor) refused

theorem set_of_not_takes (refused : ¬ p.Takes v) : e.set p v = e := by
  cases p <;> cases v <;> first | rfl | exact absurd (by constructor) refused

theorem property?_set (takes : p.Takes v) :
    (e.set p v).property? q = if q = p then some v else e.property? q := by
  cases takes with
  | stat index n =>
    cases q with
    | stat j =>
      simp only [set, property?, Table.get?_put, Property.stat.injEq]
      split <;> rfl
    | _ => rfl
  | _ => cases q <;> rfl

end Entity

namespace Sandbox

variable {s : Sandbox} {h h' : Handle} {e : Entity}

theorem entity?_eq_some_iff :
    s.entity? h = some e ↔ s.slots[h.index.toNat]? = some ⟨h.generation, some e⟩ := by
  rw [entity?]
  cases s.slots[h.index.toNat]? with
  | none => simp
  | some slot =>
    obtain ⟨generation, entity⟩ := slot
    by_cases current : generation = h.generation <;> simp [current]

inductive Act where
  | spawn (e : Entity)
  | destroy (h : Handle)
  | write (h : Handle) (p : Property) (v : Value)

namespace Act

def apply (s : Sandbox) : Act → Sandbox
  | .spawn e => (s.spawn e).2
  | .destroy h => (s.destroy h).2
  | .write h p v => (s.setProperty h p v).2

def subject (s : Sandbox) : Act → Handle
  | .spawn e => (s.spawn e).1
  | .destroy h => h
  | .write h _ _ => h

def change (h : Handle) (e : Entity) : Act → Entity
  | .write h' p v => if h' = h then e.set p v else e
  | _ => e

def leaves (s : Sandbox) : Act → Option Entity
  | .spawn e => some e
  | .destroy _ => none
  | a@(.write h _ _) => (s.entity? h).map (a.change h)

end Act

/-! What one act does. -/

structure Placed (s s' : Sandbox) (h : Handle) (new : Slot) : Prop where
  slots (i : Nat) : s'.slots[i]? = if i = h.index.toNat then some new else s.slots[i]?
  size : s'.slots.size ≤ s.slots.size + 1
  before (old : Slot) : s.slots[h.index.toNat]? = some old → old.generation = h.generation
  after : new.entity.isSome → new.generation = h.generation

theorem placed_setIfInBounds {s' : Sandbox} {old new : Slot}
    (hold : s.slots[h.index.toNat]? = some old)
    (hnew : s'.slots = s.slots.setIfInBounds h.index.toNat new)
    (before : old.generation = h.generation)
    (after : new.entity.isSome → new.generation = h.generation) : Placed s s' h new where
  slots i := by
    have inside : h.index.toNat < s.slots.size := (Array.getElem?_eq_some_iff.mp hold).1
    rw [hnew, Array.getElem?_setIfInBounds, if_pos inside]
    simp only [eq_comm]
  size := by
    rw [hnew, Array.size_setIfInBounds]
    exact Nat.le_succ _
  before old' hold' := by
    rw [hold] at hold'
    cases hold'
    exact before
  after := after

theorem spawn_cases (e : Entity) (small : s.slots.size < UInt32.size) :
    (s.slots[s.vacancy.index.toNat]? = some ⟨s.vacancy.generation, none⟩ ∧ (s.spawn e).2.slots =
        s.slots.setIfInBounds s.vacancy.index.toNat ⟨s.vacancy.generation, some e⟩) ∨
    (s.vacancy.index.toNat = s.slots.size ∧ s.vacancy.generation = 0 ∧
      (s.spawn e).2.slots = s.slots.push ⟨s.vacancy.generation, some e⟩) := by
  cases free : s.slots.findIdx? (·.entity.isNone) with
  | none =>
    have index : s.vacancy.index.toNat = s.slots.size := by simpa [vacancy, free] using small
    exact .inr ⟨index, by simp [vacancy, free], by simp [spawn, free]⟩
  | some index =>
    left
    obtain ⟨inside, vacant, -⟩ := Array.findIdx?_eq_some_iff_getElem.mp free
    have hindex : (UInt32.ofNat index).toNat = index :=
      UInt32.toNat_ofNat_of_lt' (Nat.lt_trans inside small)
    cases hslot : s.slots[index] with
    | mk generation entity =>
      obtain rfl : entity = none := by simpa [hslot] using vacant
      simp [vacancy, spawn, free, hindex, inside, hslot]

theorem placed_spawn (e : Entity) (small : s.slots.size < UInt32.size) :
    Placed s (s.spawn e).2 s.vacancy ⟨s.vacancy.generation, some e⟩ := by
  rcases spawn_cases e small with ⟨hold, hnew⟩ | ⟨last, -, hnew⟩
  · exact placed_setIfInBounds hold hnew rfl fun _ => rfl
  · refine ⟨fun i => ?_, ?_, fun old hold => ?_, fun _ => rfl⟩
    · rw [hnew, last, Array.getElem?_push]
    · simp [hnew]
    · rw [last, Array.getElem?_eq_none (Nat.le_refl _)] at hold
      contradiction

theorem placed_destroy (hs : s.entity? h = some e) :
    Placed s (s.destroy h).2 h ⟨h.generation + 1, none⟩ :=
  placed_setIfInBounds (entity?_eq_some_iff.mp hs) (by simp [destroy, hs]) rfl nofun

theorem placed_replace (hs : s.entity? h = some e) (e' : Entity) :
    Placed s (s.replace h e') h ⟨h.generation, some e'⟩ :=
  placed_setIfInBounds (entity?_eq_some_iff.mp hs) rfl rfl fun _ => rfl

theorem entity?_eq_none (other : h ≠ h') (index : h.index.toNat = h'.index.toNat)
    (own : ∀ slot, s.slots[h'.index.toNat]? = some slot → slot.entity.isSome →
      slot.generation = h'.generation) : s.entity? h = none := by
  by_contra resolves
  obtain ⟨e, hs⟩ := Option.ne_none_iff_exists'.mp resolves
  rw [entity?_eq_some_iff, index] at hs
  have generation : h.generation = h'.generation := own _ hs rfl
  obtain ⟨i, g⟩ := h
  obtain ⟨i', g'⟩ := h'
  obtain rfl : i = i' := UInt32.toNat_inj.mp index
  exact other (by rw [show g = g' from generation])

theorem Placed.entity? {s' : Sandbox} {new : Slot} (placed : Placed s s' h' new) (h : Handle) :
    s'.entity? h = if h = h' then new.entity else s.entity? h := by
  by_cases same : h = h'
  · subst same
    rw [if_pos rfl, Sandbox.entity?, placed.slots, if_pos rfl]
    cases hentity : new.entity with
    | none => simp [hentity]
    | some e => simp [hentity, placed.after (by rw [hentity]; rfl)]
  · rw [if_neg same]
    by_cases index : h.index.toNat = h'.index.toNat
    · rw [entity?_eq_none same index fun old hold _ => placed.before old hold]
      refine entity?_eq_none same index fun slot hslot => ?_
      rw [placed.slots, if_pos rfl] at hslot
      cases hslot
      exact placed.after
    · rw [Sandbox.entity?, Sandbox.entity?, placed.slots, if_neg index]

theorem destroy_of_none (hs : s.entity? h = none) : s.destroy h = (false, s) := by
  simp [destroy, hs]

theorem destroy_eq_true_iff : (s.destroy h).1 = true ↔ ∃ e, s.entity? h = some e := by
  cases hs : s.entity? h <;> simp [destroy, hs]

theorem destroy_refused (refused : (s.destroy h).1 = false) : (s.destroy h).2 = s := by
  cases hs : s.entity? h with
  | none => rw [destroy_of_none hs]
  | some e => simp [destroy, hs] at refused

section

variable {p : Property} {v : Value}

theorem setProperty_cases (s : Sandbox) (h : Handle) (p : Property) (v : Value) :
    (∃ e, s.entity? h = some e ∧ p.Takes v ∧
      s.setProperty h p v = (.ok (), s.replace h (e.set p v))) ∨
    (s.entity? h = none ∨ ¬ p.Takes v) ∧ ∃ error, s.setProperty h p v = (.error error, s) := by
  cases hs : s.entity? h with
  | none => exact .inr ⟨.inl rfl, .objectNotFound h, by simp [setProperty, hs]⟩
  | some e =>
    by_cases takes : p.Takes v
    · exact .inl ⟨e, rfl, takes, by simp [setProperty, hs, Entity.write?_of_takes takes]⟩
    · exact .inr ⟨.inr takes, .propertyNotFound h p,
        by simp [setProperty, hs, Entity.write?_of_not_takes takes]⟩

theorem setProperty_eq_ok_iff :
    (s.setProperty h p v).1 = .ok () ↔ (∃ e, s.entity? h = some e) ∧ p.Takes v := by
  rcases setProperty_cases s h p v with ⟨e, hs, takes, done⟩ | ⟨refused, error, failed⟩
  · simp [done, hs, takes]
  · rw [failed]
    refine iff_of_false nofun ?_
    rintro ⟨⟨e, hs⟩, takes⟩
    rcases refused with none | wrong
    · rw [hs] at none
      contradiction
    · exact wrong takes

/-- After a write the host answers with the value, and other properties as before. -/
theorem answer_property_write (written : (s.setProperty h p v).1 = .ok ()) (q : Property) :
    ((s.setProperty h p v).2.answer (.property h q)).1 =
      if q = p then Except.ok v else (s.answer (.property h q)).1 := by
  rcases setProperty_cases s h p v with ⟨e, hs, takes, done⟩ | ⟨-, error, failed⟩
  · have hs' := (placed_replace hs (e.set p v)).entity? h
    rw [if_pos rfl] at hs'
    simp only [done, answer, hs, hs', Entity.property?_set takes]
    split <;> rfl
  · rw [failed] at written
    contradiction

theorem setProperty_refused {error : HostError} (refused : (s.setProperty h p v).1 = .error error) :
    (s.setProperty h p v).2 = s := by
  rcases setProperty_cases s h p v with ⟨e, -, -, done⟩ | ⟨-, error, failed⟩
  · rw [done] at refused
    contradiction
  · rw [failed]

end

theorem apply_cases (a : Act) (small : s.slots.size < UInt32.size) :
    a.apply s = s ∧ a.leaves s = s.entity? (a.subject s) ∨
      ∃ new, Placed s (a.apply s) (a.subject s) new ∧ new.entity = a.leaves s := by
  cases a with
  | spawn e => exact .inr ⟨_, placed_spawn e small, rfl⟩
  | destroy h =>
    cases hs : s.entity? h with
    | none => exact .inl ⟨congrArg Prod.snd (destroy_of_none hs), hs.symm⟩
    | some e => exact .inr ⟨_, placed_destroy hs, rfl⟩
  | write h p v =>
    rcases setProperty_cases s h p v with ⟨e, hs, -, done⟩ | ⟨none | wrong, error, failed⟩
    · refine .inr ⟨⟨h.generation, some (e.set p v)⟩, ?_, by simp [Act.leaves, Act.change, hs]⟩
      rw [Act.apply, done]
      exact placed_replace hs (e.set p v)
    · exact .inl ⟨congrArg Prod.snd failed, by simp [Act.leaves, Act.subject, none]⟩
    · refine .inl ⟨congrArg Prod.snd failed, ?_⟩
      simp [Act.leaves, Act.change, Act.subject, Entity.set_of_not_takes wrong]

theorem entity?_apply (a : Act) (small : s.slots.size < UInt32.size) (h : Handle) :
    (a.apply s).entity? h = if h = a.subject s then a.leaves s else s.entity? h := by
  rcases apply_cases a small with ⟨same, kept⟩ | ⟨new, placed, hnew⟩
  · rw [same]
    split
    · rename_i subject
      rw [kept, subject]
    · rfl
  · rw [placed.entity?, hnew]

/-! How the handles issued and the slots grow. -/

def Act.returns (s : Sandbox) : Act → List Handle
  | .spawn e => [(s.spawn e).1]
  | _ => []

def returned (s : Sandbox) : List Act → List Handle
  | [] => []
  | a :: acts => a.returns s ++ returned (a.apply s) acts

theorem issued_apply (s : Sandbox) (a : Act) :
    (a.apply s).issued.toList = s.issued.toList ++ a.returns s := by
  cases a with
  | spawn e => simp [Act.apply, Act.returns, spawn]
  | destroy h =>
    simp only [Act.apply, Act.returns, destroy, List.append_nil]
    split <;> rfl
  | write h p v =>
    simp only [Act.apply, Act.returns, setProperty, List.append_nil]
    split
    · rfl
    · split <;> rfl

theorem issued_foldl (acts : List Act) (s : Sandbox) :
    (acts.foldl Act.apply s).issued.toList = s.issued.toList ++ returned s acts := by
  induction acts generalizing s with
  | nil => rw [returned, List.append_nil, List.foldl_nil]
  | cons a acts ih => rw [List.foldl_cons, ih, issued_apply, returned, List.append_assoc]

structure Tracked (s : Sandbox) (n : Nat) : Prop where
  size : s.slots.size ≤ n
  uses (i : Nat) (slot : Slot) : s.slots[i]? = some slot → slot.uses ≤ n
  issued (h : Handle) : h ∈ s.issued.toList →
    ∃ slot, s.slots[h.index.toNat]? = some slot ∧ h.generation.toNat < slot.uses
  distinct : s.issued.toList.Nodup

theorem tracked_new : Tracked {} 0 := ⟨Nat.le_refl _, nofun, nofun, List.nodup_nil⟩

section

variable {n : Nat}

theorem Tracked.small (tracked : Tracked s n) (few : n < UInt32.size - 1) :
    s.slots.size < UInt32.size :=
  Nat.lt_of_le_of_lt tracked.size (Nat.lt_trans few (by decide))

theorem Tracked.mono (tracked : Tracked s n) : Tracked s (n + 1) where
  size := Nat.le_succ_of_le tracked.size
  uses i slot hslot := Nat.le_succ_of_le (tracked.uses i slot hslot)
  issued := tracked.issued
  distinct := tracked.distinct

theorem Tracked.vacancy (tracked : Tracked s n) (small : s.slots.size < UInt32.size) :
    s.vacancy.generation.toNat ≤ n ∧ ∀ slot, s.slots[s.vacancy.index.toNat]? = some slot →
      slot.uses = s.vacancy.generation.toNat := by
  rcases spawn_cases {} small with ⟨hold, -⟩ | ⟨last, first, -⟩
  · refine ⟨tracked.uses _ _ hold, fun slot hslot => ?_⟩
    rw [hold] at hslot
    cases hslot
    rfl
  · rw [first, last, Array.getElem?_eq_none (Nat.le_refl _)]
    exact ⟨Nat.zero_le n, nofun⟩

theorem Tracked.vacancy_not_mem (tracked : Tracked s n) (small : s.slots.size < UInt32.size) :
    s.vacancy ∉ s.issued.toList := by
  intro reissued
  obtain ⟨slot, hslot, earlier⟩ := tracked.issued _ reissued
  rw [(tracked.vacancy small).2 slot hslot] at earlier
  exact Nat.lt_irrefl _ earlier

theorem Tracked.place {s' : Sandbox} {new : Slot} (tracked : Tracked s n)
    (placed : Placed s s' h new) (bound : new.uses ≤ n + 1)
    (rises : ∀ old, s.slots[h.index.toNat]? = some old → old.uses ≤ new.uses)
    (fresh : s'.issued.toList = s.issued.toList ∨ s'.issued.toList = s.issued.toList ++ [h] ∧
      h ∉ s.issued.toList ∧ h.generation.toNat < new.uses) : Tracked s' (n + 1) where
  size := Nat.le_trans placed.size (Nat.succ_le_succ tracked.size)
  uses i slot hslot := by
    rw [placed.slots] at hslot
    split at hslot
    · cases hslot
      exact bound
    · exact Nat.le_succ_of_le (tracked.uses i slot hslot)
  issued h' hissued := by
    have kept (mem : h' ∈ s.issued.toList) :
        ∃ slot, s'.slots[h'.index.toNat]? = some slot ∧ h'.generation.toNat < slot.uses := by
      obtain ⟨slot, hslot, earlier⟩ := tracked.issued h' mem
      rw [placed.slots]
      split
      · rename_i index
        exact ⟨new, rfl, Nat.lt_of_lt_of_le earlier (rises slot (index ▸ hslot))⟩
      · exact ⟨slot, hslot, earlier⟩
    rcases fresh with same | ⟨more, -, first⟩
    · exact kept (same ▸ hissued)
    · rw [more, List.mem_append, List.mem_singleton] at hissued
      rcases hissued with mem | rfl
      · exact kept mem
      · exact ⟨new, by rw [placed.slots, if_pos rfl], first⟩
  distinct := by
    rcases fresh with same | ⟨more, unseen, -⟩
    · rw [same]
      exact tracked.distinct
    · rw [more, ← List.concat_eq_append]
      exact tracked.distinct.concat unseen

theorem tracked_apply (tracked : Tracked s n) (few : n < UInt32.size - 1) (a : Act) :
    Tracked (a.apply s) (n + 1) := by
  have small := tracked.small few
  cases a with
  | spawn e =>
    obtain ⟨bound, next⟩ := tracked.vacancy small
    have first : s.vacancy.generation.toNat < (Slot.mk s.vacancy.generation (some e)).uses :=
      Nat.lt_succ_self _
    refine tracked.place (placed_spawn e small) (Nat.succ_le_succ bound) (fun old hold => ?_)
      (.inr ⟨issued_apply s (.spawn e), tracked.vacancy_not_mem small, first⟩)
    rw [next old hold]
    exact Nat.le_of_lt first
  | destroy h =>
    cases hs : s.entity? h with
    | none =>
      rw [Act.apply, destroy_of_none hs]
      exact tracked.mono
    | some e =>
      have hold := entity?_eq_some_iff.mp hs
      have bound : h.generation.toNat + 1 ≤ n := tracked.uses _ _ hold
      -- A generation wraps only after more acts than there can have been.
      have next : (h.generation + 1).toNat = h.generation.toNat + 1 := by
        rw [UInt32.size] at few
        rw [UInt32.toNat_add, UInt32.toNat_one, Nat.mod_eq_of_lt (by omega)]
      have uses : (Slot.mk (h.generation + 1) none).uses = h.generation.toNat + 1 := next
      refine tracked.place (placed_destroy hs) (by omega) (fun old hold' => ?_)
        (.inl ((issued_apply s (.destroy h)).trans (List.append_nil _)))
      rw [hold] at hold'
      cases hold'
      exact Nat.le_of_eq uses.symm
  | write h p v =>
    rw [Act.apply]
    rcases setProperty_cases s h p v with ⟨e, hs, -, done⟩ | ⟨-, error, failed⟩
    · rw [done]
      have hold := entity?_eq_some_iff.mp hs
      have bound := tracked.uses _ _ hold
      refine tracked.place (placed_replace hs (e.set p v)) (Nat.le_succ_of_le bound)
        (fun old hold' => ?_) (.inl rfl)
      rw [hold] at hold'
      cases hold'
      exact Nat.le_refl _
    · rw [failed]
      exact tracked.mono

end

/-! What a sequence of acts makes of a handle. -/

def after (acts : List Act) : Sandbox := acts.foldl Act.apply {}

/-- A spawn among the acts has returned the handle for an object, and it has not been destroyed
since. The writes on the handle have changed the object from then on. -/
def Lives (acts : List Act) (h : Handle) (e : Entity) : Prop :=
  ∃ before e₀ rest, acts = before ++ .spawn e₀ :: rest ∧ ((after before).spawn e₀).1 = h ∧
    .destroy h ∉ rest ∧ e = rest.foldl (Act.change h) e₀

theorem after_snoc (acts : List Act) (a : Act) : after (acts ++ [a]) = a.apply (after acts) := by
  rw [after, after, List.foldl_append, List.foldl_cons, List.foldl_nil]

section

variable {acts : List Act}

theorem tracked_after (few : acts.length < UInt32.size - 1) : Tracked (after acts) acts.length := by
  induction acts using List.reverseRecOn with
  | nil => exact tracked_new
  | append_singleton acts a ih =>
    rw [List.length_append, List.length_singleton] at few ⊢
    rw [after_snoc]
    exact tracked_apply (ih (by omega)) (by omega) a

theorem lives_snoc {a : Act} : Lives (acts ++ [a]) h e ↔
    a = .spawn e ∧ (after acts).vacancy = h ∨
      a ≠ .destroy h ∧ ∃ e', Lives acts h e' ∧ e = a.change h e' := by
  constructor
  · rintro ⟨before, e₀, rest, hacts, hspawn, lasting, rfl⟩
    rcases List.eq_nil_or_concat rest with rfl | ⟨rest, b, rfl⟩
    · obtain ⟨rfl, hlast⟩ := List.append_inj' hacts rfl
      obtain rfl := List.singleton_inj.mp hlast
      exact .inl ⟨rfl, hspawn⟩
    · rw [List.concat_eq_append] at hacts lasting ⊢
      rw [← List.cons_append, ← List.append_assoc] at hacts
      obtain ⟨rfl, hlast⟩ := List.append_inj' hacts rfl
      obtain rfl := List.singleton_inj.mp hlast
      simp only [List.mem_append, List.mem_singleton, not_or] at lasting
      refine .inr ⟨fun same => lasting.2 same.symm, _,
        ⟨before, e₀, rest, rfl, hspawn, lasting.1, rfl⟩, ?_⟩
      rw [List.foldl_append, List.foldl_cons, List.foldl_nil]
  · rintro (⟨rfl, hspawn⟩ | ⟨lasting, e', ⟨before, e₀, rest, rfl, hspawn, still, rfl⟩, rfl⟩)
    · exact ⟨acts, e, [], rfl, hspawn, List.not_mem_nil, rfl⟩
    · refine ⟨before, e₀, rest ++ [a], by simp, hspawn, ?_, by simp⟩
      simp [still, lasting.symm]

theorem entity?_vacancy (small : s.slots.size < UInt32.size) : s.entity? s.vacancy = none := by
  cases hs : s.entity? s.vacancy with
  | none => rfl
  | some e =>
    rw [entity?_eq_some_iff] at hs
    rcases spawn_cases e small with ⟨hold, -⟩ | ⟨last, -⟩
    · rw [hold] at hs
      cases hs
    · rw [last, Array.getElem?_eq_none (Nat.le_refl _)] at hs
      contradiction

theorem entity?_after (few : acts.length < UInt32.size - 1) (h : Handle) (e : Entity) :
    (after acts).entity? h = some e ↔ Lives acts h e := by
  induction acts using List.reverseRecOn generalizing e with
  | nil =>
    refine iff_of_false nofun ?_
    rintro ⟨before, e₀, rest, hacts, -⟩
    simp at hacts
  | append_singleton acts a ih =>
    rw [List.length_append, List.length_singleton] at few
    have few' : acts.length < UInt32.size - 1 := by omega
    have small := (tracked_after few').small few'
    rw [after_snoc, entity?_apply a small, lives_snoc]
    simp only [← ih few']
    by_cases subject : h = a.subject (after acts)
    · rw [if_pos subject]
      cases a with
      | spawn e₁ =>
        obtain rfl : h = (after acts).vacancy := subject
        simp [Act.leaves, entity?_vacancy small]
      | destroy h' =>
        obtain rfl : h = h' := subject
        simp [Act.leaves]
      | write h' p v =>
        obtain rfl : h = h' := subject
        simp only [Act.leaves, Option.map_eq_some_iff]
        simp [eq_comm]
    · rw [if_neg subject]
      cases a with
      | spawn e₁ =>
        have other : (after acts).vacancy ≠ h := Ne.symm subject
        simp [Act.change, other]
      | destroy h' =>
        have other : h' ≠ h := Ne.symm subject
        simp [Act.change, other]
      | write h' p v =>
        have other : h' ≠ h := Ne.symm subject
        simp [Act.change, other]

theorem issued_after (acts : List Act) : (after acts).issued.toList = returned {} acts := by
  simpa using! issued_foldl acts {}

theorem Lives.mem_issued (lives : Lives acts h e) : h ∈ (after acts).issued.toList := by
  obtain ⟨before, e₀, rest, rfl, rfl, -⟩ := lives
  rw [after, List.foldl_append, issued_foldl, issued_foldl, returned]
  simp [Act.returns, after]

/-- A handle that has been issued and no longer resolves never does again: no spawn returns it,
and nothing else could revive it. -/
theorem entity?_stale {n : Nat} {acts : List Act} {s : Sandbox} (tracked : Tracked s n)
    (few : n + acts.length < UInt32.size - 1) (issued : h ∈ s.issued.toList)
    (stale : s.entity? h = none) : (acts.foldl Act.apply s).entity? h = none := by
  induction acts generalizing s n with
  | nil => exact stale
  | cons a acts ih =>
    rw [List.length_cons] at few
    have few' : n < UInt32.size - 1 := by omega
    have small := tracked.small few'
    refine ih (tracked_apply tracked few' a) (by omega) ?_ ?_
    · rw [issued_apply]
      exact List.mem_append_left _ issued
    · rw [entity?_apply a small]
      split
      · rename_i subject
        cases a with
        | spawn e =>
          obtain rfl : h = s.vacancy := subject
          exact absurd issued (tracked.vacancy_not_mem small)
        | destroy h' => rfl
        | write h' p v =>
          obtain rfl : h = h' := subject
          simp [Act.leaves, stale]
      · exact stale

theorem isNothing_of_issued (few : acts.length < UInt32.size - 1)
    (issued : h ∈ (after acts).issued.toList) : h.isNothing = false := by
  have tracked := tracked_after few
  obtain ⟨slot, hslot, -⟩ := tracked.issued h issued
  have inside : h.index.toNat < (after acts).slots.size := (Array.getElem?_eq_some_iff.mp hslot).1
  have small := tracked.size
  rw [Handle.isNothing, decide_eq_false_iff_not]
  intro reserved
  rw [reserved] at inside
  have last : Handle.reservedIndex.toNat = UInt32.size - 1 := rfl
  omega

/-- Over so few acts that no generation wraps, a handle resolves to the object it was returned
for, with what has been written to it since, or to none. -/
theorem handles_generational {acts : List Act} (few : acts.length < UInt32.size - 1) :
    (returned {} acts).Nodup ∧ (∀ h ∈ returned {} acts, h.isNothing = false) ∧
    (∀ h e, (after acts).entity? h = some e ↔ Lives acts h e) ∧
    ∀ before a rest, acts = before ++ a :: rest →
      let s := after before
      (∀ h ≠ a.subject s, (a.apply s).entity? h = s.entity? h) ∧
      (∀ h, a = .destroy h →
        ((s.destroy h).1 = true ↔ ∃ e, s.entity? h = some e) ∧
        ((s.destroy h).1 = true → (after acts).entity? h = none) ∧
        ((s.destroy h).1 = false → (s.destroy h).2 = s)) ∧
      ∀ h p v, a = .write h p v →
        ((s.setProperty h p v).1 = .ok () ↔ (∃ e, s.entity? h = some e) ∧ p.Takes v) ∧
        ((s.setProperty h p v).1 = .ok () → ∀ q,
          ((s.setProperty h p v).2.answer (.property h q)).1 =
            if q = p then Except.ok v else (s.answer (.property h q)).1) ∧
        ∀ error, (s.setProperty h p v).1 = .error error → (s.setProperty h p v).2 = s := by
  have tracked := tracked_after few
  rw [← issued_after]
  refine ⟨tracked.distinct, fun h => isNothing_of_issued few, entity?_after few, ?_⟩
  rintro before a rest rfl
  rw [List.length_append, List.length_cons] at few
  have few' : before.length < UInt32.size - 1 := by omega
  have tracked' := tracked_after few'
  refine ⟨fun h other => ?others,
    fun h ha => ⟨destroy_eq_true_iff, fun done => ?gone, destroy_refused⟩,
    fun h p v _ => ⟨setProperty_eq_ok_iff, answer_property_write, fun _ => setProperty_refused⟩⟩
  case others => rw [entity?_apply a (tracked'.small few') h, if_neg other]
  case gone =>
    subst ha
    obtain ⟨e, hs⟩ := destroy_eq_true_iff.mp done
    have issued := ((entity?_after few' h e).mp hs).mem_issued
    rw [after, List.foldl_append, List.foldl_cons]
    refine entity?_stale (tracked_apply tracked' few' (.destroy h)) (by omega) ?_ ?_
    · rw [issued_apply]
      exact List.mem_append_left _ issued
    · exact (placed_destroy hs).entity? h |>.trans (if_pos rfl)

theorem handles_generational_reused :
    let h : Handle := ⟨0, 0⟩
    let spawned : List Act := [.spawn { name := "rat" }, .write h (.stat 7) (.int 5)]
    let written : List Act := spawned ++ [.write h .name (.text "bat"), .write h .pid (.text "")]
    let acts := written ++ [.destroy h, .spawn {}]
    acts.length < UInt32.size - 1 ∧
      ((after spawned).setProperty h .name (.text "bat")).1 = .ok () ∧
      (after written).entity? h = some { name := "bat", stats := [(7, 5)] } ∧
      returned {} acts = [h, ⟨0, 1⟩] ∧ (returned {} acts).Nodup ∧
      (after acts).entity? h = none := by
  intro h spawned written acts
  have few : acts.length < UInt32.size - 1 := by decide
  obtain ⟨distinct, -, -, splits⟩ := handles_generational few
  obtain ⟨-, -, suits⟩ := splits spawned (.write h .name (.text "bat")) _ rfl
  obtain ⟨-, gone, -⟩ := splits written (.destroy h) [.spawn {}] rfl
  obtain ⟨-, -, resolves, -⟩ :=
    handles_generational (show written.length < UInt32.size - 1 by decide)
  have rat : (after spawned).entity? h = some { name := "rat", stats := [(7, 5)] } := by
    decide +kernel
  exact ⟨few, (suits _ _ _ rfl).1.mpr ⟨⟨_, rat⟩, .name "bat"⟩,
    (resolves h _).mpr ⟨[], _, _, rfl, by decide +kernel, by simp, rfl⟩, by decide +kernel,
    distinct, (gone h rfl).2.1 (by decide +kernel)⟩

end

end Sandbox

end ScriptMachine
