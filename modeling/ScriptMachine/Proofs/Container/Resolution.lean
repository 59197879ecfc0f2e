import ScriptMachine.Proofs.Container.Decoding
import ScriptMachine.Proofs.Container.Latin1

/-!
# Resolving names

The offsets of a decoded table are distinct, so a look-up finds exactly the entry that
stands at an offset. Records resolve one by one: an admitted record becomes a procedure
with everything it says, and the first other record decides the error.
-/

namespace ScriptMachine.Container

open RawEntry

/-! Looking up entries. -/

theorem RawEntry.eq_latin1_iff {e : RawEntry} {text : String} :
    text = latin1 e.text ↔ text.toList = e.characters := by
  rw [← String.toList_inj, toList_latin1]
  rfl

theorem entryText?_eq_some_iff {list : List TableEntry} (h : (list.map (·.offset)).Nodup)
    (k : UInt32) (text : String) : entryText? list k = some text ↔ ⟨k, text⟩ ∈ list := by
  induction list with
  | nil => simp [entryText?]
  | cons t rest ih =>
    obtain ⟨hfresh, hrest⟩ := List.nodup_cons.mp h
    by_cases hk : t.offset = k
    · have absent : (⟨k, text⟩ : TableEntry) ∉ rest :=
        fun hmem => hfresh (List.mem_map.mpr ⟨_, hmem, hk.symm⟩)
      rw [List.mem_cons, or_iff_left absent, entryText?, List.find?_cons_of_pos (by simpa using hk)]
      subst hk
      cases t
      simp [eq_comm]
    · have other : (⟨k, text⟩ : TableEntry) ≠ t := fun heq => hk (by rw [← heq])
      rw [List.mem_cons, or_iff_right other, ← ih hrest, entryText?, entryText?,
        List.find?_cons_of_neg (by simpa using hk)]

section

variable {es : List RawEntry} (small : firstOffset + (run es).length ≤ UInt32.size)

include small

theorem toNat_offset {p : Nat × RawEntry} (h : p ∈ located firstOffset es) :
    (TableEntry.ofRaw p).offset.toNat = p.1 := by
  have := end_le_of_mem_located h
  exact UInt32.toNat_ofNat_of_lt' (by omega)

theorem tableOf_eq_located :
    (tableOf es).map (fun t => (t.offset.toNat, t.text.toList)) =
      (located firstOffset es).map fun (k, e) => (k, e.characters) := by
  rw [tableOf, List.map_map]
  apply List.map_congr_left
  intro p hp
  exact Prod.ext (toNat_offset small hp) (toList_latin1 p.2.text)

theorem nodup_offset_tableOf : ((tableOf es).map (·.offset)).Nodup := by
  have distinct : (((tableOf es).map (·.offset)).map UInt32.toNat).Nodup := by
    have hmap := congrArg (List.map Prod.fst) (tableOf_eq_located small)
    rw [List.map_map, List.map_map] at hmap
    rw [List.map_map]
    change (List.map (Prod.fst ∘ fun t : TableEntry => (t.offset.toNat, t.text.toList)) _).Nodup
    rw [hmap]
    exact (pairwise_located firstOffset es).imp Nat.ne_of_lt
  exact List.Pairwise.of_map UInt32.toNat (fun _ _ hne heq => hne (congrArg _ heq)) distinct

theorem entryText?_tableOf (k : UInt32) (text : String) :
    entryText? (tableOf es) k = some text ↔
      ∃ e, (k.toNat, e) ∈ located firstOffset es ∧ text.toList = e.characters := by
  simp only [← RawEntry.eq_latin1_iff]
  rw [entryText?_eq_some_iff (nodup_offset_tableOf small), tableOf, List.mem_map]
  constructor
  · intro h
    obtain ⟨p, hp, heq⟩ := h
    have hk := toNat_offset small hp
    rw [heq] at hk
    refine ⟨p.2, ?_, ?_⟩
    · rw [hk]
      exact hp
    · exact (congrArg TableEntry.text heq).symm
  · intro h
    obtain ⟨e, he, rfl⟩ := h
    exact ⟨(k.toNat, e), he, by rw [TableEntry.ofRaw, UInt32.ofNat_toNat]⟩

end

/-! Resolving records. -/

structure Layout.Reads (l : Layout) (r : Record) (p : Procedure) : Prop where
  name : ∃ e, l.Names r.nameOffset e ∧ p.name.toList = e.characters
  flags : p.flags.bits = r.flags
  delay : p.delay = r.delay
  condition : p.condition = r.condition
  body : p.body = r.body
  argumentCount : p.argumentCount = r.argumentCount

section

variable {l : Layout} (small : firstOffset + (run l.identifiers).length ≤ UInt32.size)

include small

theorem resolve_admitted {size : Nat} {r : Record} (h : l.Admits size r) (index : Nat) :
    ∃ p, resolve (tableOf l.identifiers) size index r = .ok p ∧ l.Reads r p := by
  obtain ⟨⟨e, he⟩, hbody, hcondition⟩ := h
  have read := toList_latin1 e.text
  have hname := (entryText?_tableOf small r.nameOffset _).mpr ⟨e, he, read⟩
  refine ⟨⟨latin1 e.text, ⟨r.flags⟩, r.delay, r.condition, r.body, r.argumentCount⟩, ?_, ?_⟩
  · simp [resolve, hname, Nat.not_le.mpr hbody, Nat.not_le.mpr hcondition]
  · exact ⟨⟨e, he, read⟩, rfl, rfl, rfl, rfl, rfl⟩

theorem resolveAll_append {size : Nat} {before : List Record}
    (h : ∀ r ∈ before, l.Admits size r) (index : Nat) (after : List Record) :
    ∃ ps, List.Forall₂ l.Reads before ps ∧
      resolveAll (tableOf l.identifiers) size index (before ++ after) =
        (resolveAll (tableOf l.identifiers) size (index + before.length) after).map (ps ++ ·) := by
  induction before generalizing index with
  | nil =>
    refine ⟨[], .nil, ?_⟩
    simp only [List.nil_append, List.length_nil, Nat.add_zero]
    cases resolveAll (tableOf l.identifiers) size index after <;> rfl
  | cons r before ih =>
    obtain ⟨hr, hbefore⟩ := List.forall_mem_cons.mp h
    obtain ⟨p, hp, reads⟩ := resolve_admitted small hr index
    obtain ⟨ps, all, hps⟩ := ih hbefore (index + 1)
    refine ⟨p :: ps, .cons reads all, ?_⟩
    have hindex : index + 1 + before.length = index + (r :: before).length := by
      rw [List.length_cons]
      omega
    rw [List.cons_append, resolveAll, hp, hps, hindex]
    cases resolveAll (tableOf l.identifiers) size (index + (r :: before).length) after <;> rfl

theorem resolveAll_sound {size : Nat} (h : l.Sound size) :
    ∃ ps, List.Forall₂ l.Reads l.records ps ∧
      resolveAll (tableOf l.identifiers) size 0 l.records = .ok ps := by
  obtain ⟨ps, all, hps⟩ := resolveAll_append small h 0 []
  rw [List.append_nil] at hps
  refine ⟨ps, all, ?_⟩
  rw [hps]
  simp [resolveAll, Except.map]

/-- The first record that cannot be resolved decides the error. -/
theorem resolveAll_eq_error {size : Nat} {before : List Record}
    (h : ∀ r ∈ before, l.Admits size r) {r : Record} {after : List Record} {e : DecodeError}
    (hr : resolve (tableOf l.identifiers) size before.length r = .error e) :
    resolveAll (tableOf l.identifiers) size 0 (before ++ r :: after) = .error e := by
  obtain ⟨ps, -, hps⟩ := resolveAll_append small h 0 (r :: after)
  rw [hps, Nat.zero_add, resolveAll, hr]
  rfl

end

end ScriptMachine.Container
