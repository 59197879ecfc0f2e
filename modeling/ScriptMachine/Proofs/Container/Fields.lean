import ScriptMachine.Container.Decode
import ScriptMachine.Proofs.Code.Reading

/-!
# Records and table entries as bytes

The written form of the two repeated parts of a container file. A run of entries fixes
the offset of each entry, and no two entries share one.
-/

namespace ScriptMachine.Container

namespace Record

def bytes (r : Record) : List UInt8 :=
  [r.nameOffset, r.flags, r.delay, r.condition, r.body, r.argumentCount].flatMap
    fun field => bigEndian 4 field.toNat

theorem length_bytes (r : Record) : r.bytes.length = recordSize := by
  simp [bytes, length_bigEndian, recordSize]

theorem exists_eq_bytes {bytes : List UInt8} (h : bytes.length = recordSize) :
    ∃ r : Record, bytes = r.bytes := by
  have field (k : Nat) (hk : k < 6) :
      ∃ n : UInt32, (bytes.drop (4 * k)).take 4 = bigEndian 4 n.toNat := by
    apply exists_word
    rw [List.length_take, List.length_drop, h, recordSize]
    omega
  obtain ⟨nameOffset, h₀⟩ := field 0 (by decide)
  obtain ⟨flags, h₁⟩ := field 1 (by decide)
  obtain ⟨delay, h₂⟩ := field 2 (by decide)
  obtain ⟨condition, h₃⟩ := field 3 (by decide)
  obtain ⟨body, h₄⟩ := field 4 (by decide)
  obtain ⟨argumentCount, h₅⟩ := field 5 (by decide)
  refine ⟨⟨nameOffset, flags, delay, condition, body, argumentCount⟩, ?_⟩
  have last : bytes.drop 24 = [] := List.drop_eq_nil_of_le (by rw [h]; exact Nat.le_refl 24)
  have split (k : Nat) : bytes.drop k = (bytes.drop k).take 4 ++ bytes.drop (k + 4) := by
    rw [← List.drop_drop, List.take_append_drop]
  have fields := split 0
  rw [split 4, split 8, split 12, split 16, split 20, last, List.drop_zero] at fields
  rw [Record.bytes, fields]
  simp only [List.flatMap_cons, List.flatMap_nil, ← h₀, ← h₁, ← h₂, ← h₃, ← h₄, ← h₅]
  rfl

end Record

structure RawEntry where
  text : List UInt8
  fits : text.length < UInt16.size

namespace RawEntry

def bytes (e : RawEntry) : List UInt8 := bigEndian 2 e.text.length ++ e.text

/-- The characters of the text, one for each byte that is not a null. -/
def characters (e : RawEntry) : List Char :=
  (e.text.filter (· ≠ 0)).map fun b => Char.ofNat b.toNat

def run (entries : List RawEntry) : List UInt8 := entries.flatMap bytes

def sizedRun (entries : List RawEntry) : List UInt8 :=
  bigEndian 4 (run entries).length ++ run entries

def located : Nat → List RawEntry → List (Nat × RawEntry)
  | _, [] => []
  | offset, e :: rest => (offset, e) :: located (offset + e.text.length + 2) rest

theorem length_bytes (e : RawEntry) : e.bytes.length = e.text.length + 2 := by
  rw [bytes, List.length_append, length_bigEndian, Nat.add_comm]

theorem run_cons (e : RawEntry) (rest : List RawEntry) :
    run (e :: rest) = e.bytes ++ run rest := rfl

theorem length_run_cons (e : RawEntry) (rest : List RawEntry) :
    (run (e :: rest)).length = e.text.length + 2 + (run rest).length := by
  rw [run_cons, List.length_append, length_bytes]

theorem run_append (entries more : List RawEntry) :
    run (entries ++ more) = run entries ++ run more := List.flatMap_append

theorem length_sizedRun (entries : List RawEntry) :
    (sizedRun entries).length = 4 + (run entries).length := by
  rw [sizedRun, List.length_append, length_bigEndian]

/-- An entry's offset counts the bytes before its first character: those before the table's
first character, the entries before it and their lengths. -/
theorem mem_located {offset : Nat} {entries : List RawEntry} {k : Nat} {e : RawEntry} :
    (k, e) ∈ located offset entries ↔
      ∃ before after, entries = before ++ e :: after ∧ k = offset + (run before).length := by
  induction entries generalizing offset with
  | nil => simp [located]
  | cons first rest ih =>
    rw [located, List.mem_cons, ih]
    constructor
    · intro h
      rcases h with h | ⟨before, after, rfl, rfl⟩
      · obtain ⟨rfl, rfl⟩ := Prod.mk.inj h
        exact ⟨[], rest, rfl, rfl⟩
      · refine ⟨first :: before, after, rfl, ?_⟩
        rw [length_run_cons]
        omega
    · intro h
      obtain ⟨before, after, h, rfl⟩ := h
      cases before with
      | nil =>
        obtain ⟨rfl, rfl⟩ := List.cons.inj h
        exact .inl rfl
      | cons e' before =>
        obtain ⟨rfl, rfl⟩ := List.cons.inj h
        refine .inr ⟨before, after, rfl, ?_⟩
        rw [length_run_cons]
        omega

theorem offset_le_of_mem_located {offset : Nat} {entries : List RawEntry} {p : Nat × RawEntry}
    (h : p ∈ located offset entries) : offset ≤ p.1 := by
  obtain ⟨before, _, _, h⟩ := mem_located.mp h
  omega

theorem end_le_of_mem_located {offset : Nat} {entries : List RawEntry} {p : Nat × RawEntry}
    (h : p ∈ located offset entries) :
    p.1 + p.2.text.length + 2 ≤ offset + (run entries).length := by
  obtain ⟨before, after, rfl, h⟩ := mem_located.mp h
  rw [run_append, List.length_append, length_run_cons]
  omega

theorem pairwise_located (offset : Nat) (entries : List RawEntry) :
    ((located offset entries).map (·.1)).Pairwise (· < ·) := by
  induction entries generalizing offset with
  | nil => exact .nil
  | cons e rest ih =>
    refine List.pairwise_cons.mpr ⟨?_, ih _⟩
    intro k hk
    obtain ⟨p, hp, rfl⟩ := List.mem_map.mp hk
    have later := offset_le_of_mem_located hp
    change offset < p.1
    omega

end RawEntry

end ScriptMachine.Container
