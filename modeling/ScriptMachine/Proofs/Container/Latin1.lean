import Mathlib.Tactic.Common
import ScriptMachine.Container.Decode

/-!
# Texts read as Latin-1

A table holds the UTF-8 bytes of a text, and decoding reads every byte but null as a
character of its own. The text comes back unchanged exactly if all its characters are
ASCII and none is null: any other character is at least two non-null bytes.
-/

namespace ScriptMachine.Container

def textBytes (text : String) : List UInt8 := text.toUTF8.data.toList

theorem length_textBytes (text : String) : (textBytes text).length = text.utf8ByteSize := by
  rw [textBytes, String.toUTF8_eq_toByteArray, Array.length_toList]
  rfl

theorem textBytes_eq_flatMap (text : String) :
    textBytes text = text.toList.flatMap String.utf8EncodeChar := by
  rw [textBytes, String.toUTF8_eq_toByteArray, ← String.utf8Encode_toList, List.utf8Encode,
    List.toList_data_toByteArray]

theorem latin1_append_zeros (bytes : List UInt8) (count : Nat) :
    latin1 (bytes ++ List.replicate count 0) = latin1 bytes := by
  rw [latin1, List.filter_append, List.filter_replicate_of_neg (by decide), List.append_nil]
  rfl

theorem toNat_ofNat_byte (b : UInt8) : (Char.ofNat b.toNat).toNat = b.toNat := by
  have small := b.toNat_lt
  have valid : b.toNat.isValidChar := .inl (by omega)
  rw [Char.ofNat, dif_pos valid]
  rfl

theorem toList_latin1 (bytes : List UInt8) :
    (latin1 bytes).toList = (bytes.filter (· ≠ 0)).map fun b => Char.ofNat b.toNat :=
  String.toList_ofList

theorem ofNat_ne_zero {n : Nat} (h : n % 256 ≠ 0) : UInt8.ofNat n ≠ 0 := by
  intro heq
  have hbyte := congrArg UInt8.toNat heq
  rw [UInt8.toNat_ofNat'] at hbyte
  exact h hbyte

theorem utf8EncodeChar_cases (c : Char) :
    c.toNat < 128 ∧ String.utf8EncodeChar c = [.ofNat c.toNat] ∨
      128 ≤ c.toNat ∧ 2 ≤ ((String.utf8EncodeChar c).filter (· ≠ 0)).length := by
  have kept {n : Nat} (h : 128 ≤ n % 256) (bytes : List UInt8) :
      (UInt8.ofNat n :: bytes).filter (· ≠ 0) = .ofNat n :: bytes.filter (· ≠ 0) := by
    have nonzero : UInt8.ofNat n ≠ 0 := ofNat_ne_zero (by omega)
    exact List.filter_cons_of_pos (by simpa using nonzero)
  fun_cases String.utf8EncodeChar c with
  | case1 v h => exact .inl ⟨by change v < 128; omega, rfl⟩
  | case2 v h h' =>
    refine .inr ⟨by change 128 ≤ v; omega, ?_⟩
    rw [kept (by omega), kept (by omega)]
    simp only [List.length_cons]
    omega
  | case3 v h h' h'' =>
    refine .inr ⟨by change 128 ≤ v; omega, ?_⟩
    rw [kept (by omega), kept (by omega)]
    simp only [List.length_cons]
    omega
  | case4 v h h' h'' =>
    refine .inr ⟨by change 128 ≤ v; omega, ?_⟩
    rw [kept (by omega), kept (by omega)]
    simp only [List.length_cons]
    omega

/-- Characters other than null have at least one non-null byte each, and just one only
if they are ASCII. -/
theorem ascii_of_length_le {chars : List Char} (h : ∀ c ∈ chars, c.toNat ≠ 0) :
    chars.length ≤ ((chars.flatMap String.utf8EncodeChar).filter (· ≠ 0)).length ∧
      (((chars.flatMap String.utf8EncodeChar).filter (· ≠ 0)).length ≤ chars.length →
        ∀ c ∈ chars, c.toNat < 128) := by
  induction chars with
  | nil => simp
  | cons c chars ih =>
    obtain ⟨hc, hchars⟩ := List.forall_mem_cons.mp h
    obtain ⟨atLeast, ascii⟩ := ih hchars
    rw [List.flatMap_cons, List.filter_append, List.length_append, List.length_cons]
    rcases utf8EncodeChar_cases c with ⟨small, hbytes⟩ | ⟨-, several⟩
    · have nonzero : UInt8.ofNat c.toNat ≠ 0 := ofNat_ne_zero (by omega)
      have one : ((String.utf8EncodeChar c).filter (· ≠ 0)).length = 1 := by
        rw [hbytes]
        simp [nonzero]
      rw [one]
      exact ⟨by omega, fun hle => List.forall_mem_cons.mpr ⟨small, ascii (by omega)⟩⟩
    · exact ⟨by omega, fun hle => by omega⟩

theorem latin1_textBytes_eq_self_iff (text : String) :
    latin1 (textBytes text) = text ↔ ∀ c ∈ text.toList, c.toNat ≠ 0 ∧ c.toNat < 128 := by
  rw [← String.toList_inj, toList_latin1, textBytes_eq_flatMap]
  constructor
  · intro h
    have nonzero : ∀ c ∈ text.toList, c.toNat ≠ 0 := by
      intro c hc
      rw [← h] at hc
      obtain ⟨b, hb, rfl⟩ := List.mem_map.mp hc
      rw [toNat_ofNat_byte]
      exact fun hzero => by simpa [← UInt8.toNat_inj, hzero] using (List.mem_filter.mp hb).2
    have hlength := congrArg List.length h
    rw [List.length_map] at hlength
    have ascii := (ascii_of_length_le nonzero).2 (Nat.le_of_eq hlength)
    exact fun c hc => ⟨nonzero c hc, ascii c hc⟩
  · intro h
    generalize text.toList = chars at h ⊢
    induction chars with
    | nil => rfl
    | cons c chars ih =>
      obtain ⟨⟨nonzero, small⟩, hchars⟩ := List.forall_mem_cons.mp h
      have hbytes : String.utf8EncodeChar c = [.ofNat c.toNat] := by
        rcases utf8EncodeChar_cases c with ⟨-, hbytes⟩ | ⟨large, -⟩
        · exact hbytes
        · omega
      have hbyte : (UInt8.ofNat c.toNat).toNat = c.toNat := by
        rw [UInt8.toNat_ofNat']
        omega
      have kept : UInt8.ofNat c.toNat ≠ 0 := ofNat_ne_zero (by omega)
      rw [List.flatMap_cons, hbytes, List.singleton_append,
        List.filter_cons_of_pos (by simpa using kept), List.map_cons, hbyte, Char.ofNat_toNat,
        ih hchars]

end ScriptMachine.Container
