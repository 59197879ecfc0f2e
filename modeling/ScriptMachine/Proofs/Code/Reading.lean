import Mathlib.Data.List.Induction
import Mathlib.Tactic.Common
import ScriptMachine.Code.Reader

/-!
# Fields and cursors

Reading a field of fixed width and writing it are inverse to each other, so a run of
bytes is the field of exactly one number. A cursor is placed between the bytes it has
passed and the bytes ahead of it; every read is stated with arbitrary bytes on both
sides, so readers of whole records compose without absolute offsets.
-/

namespace ScriptMachine

theorem ofBigEndian_concat (bytes : List UInt8) (b : UInt8) :
    ofBigEndian (bytes ++ [b]) = ofBigEndian bytes * 256 + b.toNat := by
  simp [ofBigEndian]

theorem bigEndian_ofBigEndian (bytes : List UInt8) :
    bigEndian bytes.length (ofBigEndian bytes) = bytes := by
  induction bytes using List.reverseRecOn with
  | nil => rfl
  | append_singleton bytes b ih =>
    have high : (ofBigEndian bytes * 256 + b.toNat) / 256 = ofBigEndian bytes := by
      have := b.toNat_lt
      omega
    have low : UInt8.ofNat (ofBigEndian bytes * 256 + b.toNat) = b := by
      apply UInt8.toNat_inj.mp
      have := b.toNat_lt
      simp only [UInt8.toNat_ofNat']
      omega
    rw [ofBigEndian_concat, List.length_append, List.length_singleton, bigEndian, high, low, ih]

theorem ofBigEndian_lt (bytes : List UInt8) : ofBigEndian bytes < Nat.pow 256 bytes.length := by
  induction bytes using List.reverseRecOn with
  | nil => decide
  | append_singleton bytes b ih =>
    have := b.toNat_lt
    rw [ofBigEndian_concat, List.length_append, List.length_singleton]
    change _ < Nat.pow 256 bytes.length * 256
    omega

theorem exists_word {bytes : List UInt8} (h : bytes.length = 4) :
    ∃ n : UInt32, bytes = bigEndian 4 n.toNat := by
  have bound : ofBigEndian bytes < UInt32.size := by
    have := ofBigEndian_lt bytes
    rwa [h] at this
  refine ⟨.ofNat (ofBigEndian bytes), ?_⟩
  rw [UInt32.toNat_ofNat_of_lt' bound, ← h, bigEndian_ofBigEndian]

theorem exists_halfword {bytes : List UInt8} (h : bytes.length = 2) :
    ∃ n : UInt16, bytes = bigEndian 2 n.toNat := by
  have bound : ofBigEndian bytes < UInt16.size := by
    have := ofBigEndian_lt bytes
    rwa [h] at this
  refine ⟨.ofNat (ofBigEndian bytes), ?_⟩
  rw [UInt16.toNat_ofNat_of_lt' bound, ← h, bigEndian_ofBigEndian]

namespace Reader

section

variable {r : Reader} {count : Nat}

theorem seek_of_le {offset : Nat} (h : offset ≤ r.size) :
    seek offset r = .ok () { r with position := offset } := by
  change (if r.size < offset then _ else _ : Work Unit) r = _
  rw [if_neg (Nat.not_lt.mpr h)]
  rfl

theorem seek_of_lt {offset : Nat} (h : r.size < offset) :
    seek offset r = .error ⟨offset, 0, r.size⟩ r := by
  change (if r.size < offset then _ else _ : Work Unit) r = _
  rw [if_pos h]
  rfl

theorem take_of_le (h : r.position + count ≤ r.size) :
    take count r = .ok (r.bytes.extract r.position (r.position + count)).toList
      { r with position := r.position + count } := by
  change (if r.size < r.position + count then _ else _ : Work _) r = _
  rw [if_neg (Nat.not_lt.mpr h)]
  rfl

theorem take_of_lt (h : r.size < r.position + count) :
    take count r = .error ⟨r.position, count, r.size⟩ r := by
  change (if r.size < r.position + count then _ else _ : Work _) r = _
  rw [if_pos h]
  rfl

variable {α : Type} {view : Nat → α} {width : Nat}

theorem number_of_le (h : width ≤ r.remaining) :
    number width view r =
      .ok (view (ofBigEndian (r.bytes.extract r.position (r.position + width)).toList))
        { r with position := r.position + width } := by
  change (if r.remaining < width then _ else _ : Work α) r = _
  rw [if_neg (Nat.not_lt.mpr h)]
  rfl

theorem number_of_lt (h : r.remaining < width) :
    number width view r = .error ⟨r.position, width, r.size⟩ r := by
  change (if r.remaining < width then _ else _ : Work α) r = _
  rw [if_pos h]
  rfl

theorem number_comp {β : Type} (f : α → β) {a : α} {r' : Reader}
    (h : number width view r = .ok a r') : number width (fun n => f (view n)) r = .ok (f a) r' := by
  rcases Nat.lt_or_ge r.remaining width with short | fits
  · rw [number_of_lt short] at h
    contradiction
  · rw [number_of_le fits] at h ⊢
    cases h
    rfl

end

/-- The cursor between what lies behind it and what lies ahead. -/
def between (behind ahead : List UInt8) : Reader := ⟨(behind ++ ahead).toArray, behind.length⟩

variable (behind ahead : List UInt8)

theorem ofBytes_eq_between (bytes : Array UInt8) : ofBytes bytes = between [] bytes.toList := by
  simp [ofBytes, between]

theorem position_between : (between behind ahead).position = behind.length := rfl

theorem size_between : (between behind ahead).size = behind.length + ahead.length := by
  simp [between, size]

theorem remaining_between : (between behind ahead).remaining = ahead.length := by
  rw [remaining, size_between]
  exact Nat.add_sub_cancel_left ..

theorem take_between (bytes : List UInt8) :
    take bytes.length (between behind (bytes ++ ahead)) =
      .ok bytes (between (behind ++ bytes) ahead) := by
  have fits : (between behind (bytes ++ ahead)).position + bytes.length ≤
      (between behind (bytes ++ ahead)).size := by
    rw [size_between, position_between, List.length_append]
    omega
  rw [take_of_le fits]
  simp [between]

theorem take_between_of_lt {count : Nat} (h : ahead.length < count) :
    take count (between behind ahead) =
      .error ⟨behind.length, count, behind.length + ahead.length⟩ (between behind ahead) := by
  have short : (between behind ahead).size < (between behind ahead).position + count := by
    rw [size_between, position_between]
    omega
  rw [take_of_lt short, size_between]
  rfl

theorem number_between {α : Type} (view : Nat → α) (bytes : List UInt8) :
    number bytes.length view (between behind (bytes ++ ahead)) =
      .ok (view (ofBigEndian bytes)) (between (behind ++ bytes) ahead) := by
  have fits : bytes.length ≤ (between behind (bytes ++ ahead)).remaining := by
    rw [remaining_between, List.length_append]
    omega
  rw [number_of_le fits]
  simp [between]

theorem uint16_between (n : UInt16) :
    uint16 (between behind (bigEndian 2 n.toNat ++ ahead)) =
      .ok n (between (behind ++ bigEndian 2 n.toNat) ahead) := by
  have read := number_between behind ahead UInt16.ofNat (bigEndian 2 n.toNat)
  rwa [length_bigEndian, ofBigEndian_bigEndian_two n.toNat_lt, UInt16.ofNat_toNat] at read

theorem uint32_between (n : UInt32) :
    uint32 (between behind (bigEndian 4 n.toNat ++ ahead)) =
      .ok n (between (behind ++ bigEndian 4 n.toNat) ahead) := by
  have read := number_between behind ahead UInt32.ofNat (bigEndian 4 n.toNat)
  rwa [length_bigEndian, ofBigEndian_bigEndian_four n.toNat_lt, UInt32.ofNat_toNat] at read

theorem uint32_between_of_lt (h : ahead.length < 4) :
    uint32 (between behind ahead) =
      .error ⟨behind.length, 4, behind.length + ahead.length⟩ (between behind ahead) := by
  rw [← remaining_between behind ahead] at h
  rw [uint32, number_of_lt h, size_between]
  rfl

theorem seek_between {offset : Nat} (h : offset ≤ ahead.length) :
    seek offset (between [] ahead) =
      .ok () (between (ahead.take offset) (ahead.drop offset)) := by
  have length : (ahead.take offset).length = offset := List.length_take_of_le h
  rw [seek_of_le (by rw [size_between, List.length_nil]; omega)]
  simp [between, length]

theorem seek_between_of_lt {offset : Nat} (h : ahead.length < offset) :
    seek offset (between [] ahead) = .error ⟨offset, 0, ahead.length⟩ (between [] ahead) := by
  have beyond : (between [] ahead).size < offset := by
    rw [size_between, List.length_nil]
    omega
  rw [seek_of_lt beyond, size_between, List.length_nil, Nat.zero_add]

end Reader

end ScriptMachine
