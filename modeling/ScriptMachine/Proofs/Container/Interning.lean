import Mathlib.Data.List.Nodup
import ScriptMachine.Container.Build
import ScriptMachine.Proofs.Container.Fields
import ScriptMachine.Proofs.Container.Latin1

/-!
# Interned texts

A pool numbers its texts as if they were already written. The invariant says that the
numbers are the offsets of the entries in the table that will be written, that the running
size is the size of that table, and that no text is there twice. Interning keeps it as
long as the padded text fits the length field of an entry.
-/

namespace ScriptMachine.Container.RawEntry

theorem run_concat (entries : List RawEntry) (e : RawEntry) :
    (run (entries ++ [e])).length = (run entries).length + 2 + e.text.length := by
  rw [run_append, List.length_append, length_run_cons]
  simp only [run, List.flatMap_nil, List.length_nil]
  omega

theorem located_concat (offset : Nat) (entries : List RawEntry) (e : RawEntry) :
    located offset (entries ++ [e]) =
      located offset entries ++ [(offset + (run entries).length, e)] := by
  induction entries generalizing offset with
  | nil => rfl
  | cons first rest ih =>
    have hoffset : offset + first.text.length + 2 + (run rest).length =
        offset + (run (first :: rest)).length := by
      rw [length_run_cons]
      omega
    rw [List.cons_append, located, ih, hoffset]
    rfl

end ScriptMachine.Container.RawEntry

namespace ScriptMachine.Pool

open Container Container.RawEntry

/-- The longest text whose padded length fits an entry, in bytes. -/
def longest : Nat := 65533

def paddedBytes (text : String) : List UInt8 :=
  textBytes text ++ List.replicate (padded text - text.utf8ByteSize) 0

theorem length_paddedBytes (text : String) : (paddedBytes text).length = padded text := by
  rw [paddedBytes, List.length_append, length_textBytes, List.length_replicate, padded]
  omega

theorem latin1_paddedBytes (text : String) : latin1 (paddedBytes text) = latin1 (textBytes text) :=
  latin1_append_zeros _ _

def rawEntry (text : String) : RawEntry :=
  ⟨(paddedBytes text).take (UInt16.size - 1), by
    rw [List.length_take, UInt16.size]
    omega⟩

theorem text_rawEntry {text : String} (h : text.utf8ByteSize ≤ longest) :
    (rawEntry text).text = paddedBytes text := by
  apply List.take_of_length_le
  rw [length_paddedBytes, padded, UInt16.size]
  rw [longest] at h
  omega

theorem bytes_rawEntry {text : String} (h : text.utf8ByteSize ≤ longest) :
    (rawEntry text).bytes = encodeEntry text := by
  rw [RawEntry.bytes, text_rawEntry h, length_paddedBytes, paddedBytes, encodeEntry,
    List.append_assoc]
  rfl

def texts (p : Pool) : List String := p.entries.toList.map (·.2)

def table (p : Pool) : List RawEntry := p.texts.map rawEntry

structure Coherent (p : Pool) : Prop where
  short : ∀ text ∈ p.texts, text.utf8ByteSize ≤ longest
  located : p.entries.toList.map (fun (k, text) => (k, rawEntry text)) =
    located firstOffset p.table
  size : p.size = (run p.table).length
  distinct : p.texts.Nodup

theorem coherent_empty : Coherent {} := by
  constructor <;> simp [texts, table, RawEntry.located, run]

theorem offset?_eq_none {p : Pool} {text : String} (h : p.offset? text = none) :
    text ∉ p.texts := by
  rw [offset?, Option.map_eq_none_iff, Array.find?_eq_none] at h
  intro hmem
  obtain ⟨e, he, rfl⟩ := List.mem_map.mp hmem
  exact h e (Array.mem_toList_iff.mp he) (by simp)

theorem mem_of_offset?_eq_some {p : Pool} {text : String} {k : Nat}
    (h : p.offset? text = some k) : (k, text) ∈ p.entries.toList := by
  rw [offset?, Option.map_eq_some_iff] at h
  obtain ⟨⟨k', text'⟩, hfind, rfl⟩ := h
  have htext := Array.find?_some hfind
  obtain rfl : text' = text := by simpa using htext
  exact Array.mem_toList_iff.mpr (Array.mem_of_find?_eq_some hfind)

theorem intern_of_some {p : Pool} {text : String} {k : Nat} (h : p.offset? text = some k) :
    p.intern text = (k, p) := by
  rw [intern, h]

theorem intern_of_none {p : Pool} {text : String} (h : p.offset? text = none) :
    p.intern text = (p.size + firstOffset,
      ⟨p.entries.push (p.size + firstOffset, text), p.size + 2 + padded text⟩) := by
  rw [intern, h]

theorem mem_entries_intern {p : Pool} {text : String} {e : Nat × String} :
    e ∈ (p.intern text).2.entries.toList ↔
      e ∈ p.entries.toList ∨ e = ((p.intern text).1, text) := by
  cases h : p.offset? text with
  | some k =>
    rw [intern_of_some h]
    refine ⟨.inl, ?_⟩
    intro h
    rcases h with he | rfl
    · exact he
    · exact mem_of_offset?_eq_some h
  | none =>
    rw [intern_of_none h, Array.toList_push, List.mem_append, List.mem_singleton]

def written (p : Pool) : List UInt8 := p.entries.toList.flatMap (encodeEntry ·.2)

theorem length_encodeEntry (text : String) : (encodeEntry text).length = 2 + padded text := by
  have hpadded := length_paddedBytes text
  rw [paddedBytes] at hpadded
  rw [encodeEntry, List.append_assoc, List.length_append, length_bigEndian]
  exact congrArg (2 + ·) hpadded

structure Tallied (p : Pool) : Prop where
  size : p.size = p.written.length
  offset_lt : ∀ e ∈ p.entries.toList, e.1 < p.size + firstOffset

theorem tallied_empty : Tallied {} := by
  constructor <;> simp [written]

theorem Tallied.intern {p : Pool} (h : p.Tallied) (text : String) : (p.intern text).2.Tallied := by
  cases htext : p.offset? text with
  | some k =>
    rw [intern_of_some htext]
    exact h
  | none =>
    rw [intern_of_none htext]
    constructor
    · rw [written, Array.toList_push, List.flatMap_append, List.length_append,
        List.flatMap_singleton, length_encodeEntry]
      change p.size + 2 + padded text = p.written.length + _
      rw [h.size, Nat.add_assoc]
    · intro e he
      change e.1 < p.size + 2 + padded text + firstOffset
      rw [Array.toList_push] at he
      rcases List.mem_append.mp he with he | he
      · have before := h.offset_lt e he
        omega
      · rw [List.mem_singleton.mp he]
        omega

theorem Tallied.encode_eq {p : Pool} (h : p.Tallied) {entries : List RawEntry}
    (hrun : run entries = p.written) : p.encode = sizedRun entries := by
  rw [sizedRun, hrun, ← h.size]
  rfl

theorem exists_offset? {p : Pool} {text : String} (h : text ∈ p.texts) :
    ∃ k, p.offset? text = some k ∧ (k, text) ∈ p.entries.toList := by
  cases htext : p.offset? text with
  | none => exact absurd h (offset?_eq_none htext)
  | some k => exact ⟨k, rfl, mem_of_offset?_eq_some htext⟩

theorem Coherent.intern {p : Pool} (h : p.Coherent) {text : String}
    (short : text.utf8ByteSize ≤ longest) : (p.intern text).2.Coherent := by
  cases htext : p.offset? text with
  | some k =>
    rw [intern_of_some htext]
    exact h
  | none =>
    rw [intern_of_none htext]
    have htexts : Pool.texts ⟨p.entries.push (p.size + firstOffset, text),
        p.size + 2 + padded text⟩ = p.texts ++ [text] := by
      simp [texts]
    have htable : Pool.table ⟨p.entries.push (p.size + firstOffset, text),
        p.size + 2 + padded text⟩ = p.table ++ [rawEntry text] := by
      rw [table, htexts, List.map_append]
      rfl
    constructor
    · rw [htexts]
      intro t ht
      rcases List.mem_append.mp ht with ht | ht
      · exact h.short t ht
      · rw [List.mem_singleton.mp ht]
        exact short
    · rw [htable, located_concat, ← h.located, ← h.size, Array.toList_push, List.map_append,
        Nat.add_comm firstOffset]
      rfl
    · rw [htable, run_concat, ← h.size, text_rawEntry short, length_paddedBytes]
    · rw [htexts]
      refine List.nodup_append.mpr ⟨h.distinct, List.nodup_singleton _, ?_⟩
      intro t ht t' ht' heq
      rw [heq, List.mem_singleton.mp ht'] at ht
      exact offset?_eq_none htext ht

namespace Coherent

variable {p : Pool} (h : p.Coherent)

include h

theorem run_table : run p.table = p.written := by
  rw [run, table, texts, List.flatMap_map, List.flatMap_map]
  apply List.flatMap_congr
  intro e he
  exact bytes_rawEntry (h.short e.2 (List.mem_map.mpr ⟨e, he, rfl⟩))

/-- The table holds exactly the interned texts, at the offsets that were answered. -/
theorem mem_located_iff {k : Nat} {e : RawEntry} :
    (k, e) ∈ RawEntry.located firstOffset p.table ↔
      ∃ text, (k, text) ∈ p.entries.toList ∧ e = rawEntry text := by
  rw [← h.located, List.mem_map]
  constructor
  · intro h
    obtain ⟨⟨k', text⟩, hmem, heq⟩ := h
    obtain ⟨rfl, rfl⟩ := Prod.mk.inj heq
    exact ⟨text, hmem, rfl⟩
  · intro h
    obtain ⟨text, hmem, rfl⟩ := h
    exact ⟨(k, text), hmem, rfl⟩

theorem tallied : p.Tallied where
  size := by rw [h.size, h.run_table]
  offset_lt e he := by
    have hlocated := h.mem_located_iff.mpr ⟨e.2, he, rfl⟩
    have hend := end_le_of_mem_located hlocated
    change e.1 + _ + 2 ≤ _ at hend
    rw [← h.size] at hend
    omega

theorem latin1_rawEntry {k : Nat} {text : String} (he : (k, text) ∈ p.entries.toList) :
    latin1 (rawEntry text).text = latin1 (textBytes text) := by
  rw [text_rawEntry (h.short text (List.mem_map.mpr ⟨_, he, rfl⟩)), latin1_paddedBytes]

theorem offset_injective {k k' : Nat} {text text' : String} (he : (k, text) ∈ p.entries.toList)
    (he' : (k', text') ∈ p.entries.toList) : k = k' ↔ text = text' := by
  have offsets : (p.entries.toList.map (·.1)).Nodup := by
    have hpairs := (pairwise_located firstOffset p.table).imp Nat.ne_of_lt
    rw [← h.located, List.map_map] at hpairs
    exact hpairs
  constructor
  · intro h
    obtain rfl := h
    exact (Prod.mk.inj (List.inj_on_of_nodup_map offsets he he' rfl)).2
  · intro h
    obtain rfl := h
    exact (Prod.mk.inj (List.inj_on_of_nodup_map h.distinct he he' rfl)).1

end Coherent

end ScriptMachine.Pool
