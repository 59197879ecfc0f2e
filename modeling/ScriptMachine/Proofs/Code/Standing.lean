import ScriptMachine.Code.Assembly
import ScriptMachine.Proofs.Code.Reading

/-!
# Code in its place

Code stands at an offset of a file with anything before and behind it. What is read there does
not depend on the rest, and each part of the code stands in a place of its own.
-/

namespace ScriptMachine

def StandsAt (file : List UInt8) (offset : Nat) (code : List UInt8) : Prop :=
  ∃ before after, file = before ++ code ++ after ∧ before.length = offset

namespace StandsAt

variable {file : List UInt8} {position : Nat}

theorem end_le {code : List UInt8} (h : StandsAt file position code) :
    position + code.length ≤ file.length := by
  obtain ⟨before, after, rfl, rfl⟩ := h
  rw [List.length_append, List.length_append]
  omega

theorem left {a b : List UInt8} (h : StandsAt file position (a ++ b)) :
    StandsAt file position a := by
  obtain ⟨before, after, rfl, hposition⟩ := h
  exact ⟨before, b ++ after, by simp only [List.append_assoc], hposition⟩

theorem right {a b : List UInt8} (h : StandsAt file position (a ++ b)) :
    StandsAt file (position + a.length) b := by
  obtain ⟨before, after, rfl, rfl⟩ := h
  exact ⟨before ++ a, after, by simp only [List.append_assoc], List.length_append⟩

section

variable {bytes : Array UInt8}

theorem between {code : List UInt8} (h : StandsAt bytes.toList position code) :
    ∃ before after, (⟨bytes, position⟩ : Reader) = .between before (code ++ after) ∧
      (⟨bytes, position + code.length⟩ : Reader) = .between (before ++ code) after := by
  obtain ⟨before, after, hfile, rfl⟩ := h
  have hbytes : bytes = (before ++ code ++ after).toArray := Array.toList_inj.mp hfile
  refine ⟨before, after, ?_, ?_⟩
  · rw [hbytes, Reader.between, List.append_assoc]
  · rw [hbytes, Reader.between, List.length_append]

theorem uint16 {n : UInt16} (h : StandsAt bytes.toList position (bigEndian 2 n.toNat)) :
    Reader.uint16 ⟨bytes, position⟩ = .ok n ⟨bytes, position + 2⟩ := by
  obtain ⟨before, after, here, behind⟩ := h.between
  rw [length_bigEndian] at behind
  rw [here, behind]
  exact Reader.uint16_between before after n

theorem uint32 {n : UInt32} (h : StandsAt bytes.toList position (bigEndian 4 n.toNat)) :
    Reader.uint32 ⟨bytes, position⟩ = .ok n ⟨bytes, position + 4⟩ := by
  obtain ⟨before, after, here, behind⟩ := h.between
  rw [length_bigEndian] at behind
  rw [here, behind]
  exact Reader.uint32_between before after n

theorem of_uint16 {n : UInt16} {r : Reader} (h : Reader.uint16 ⟨bytes, position⟩ = .ok n r) :
    StandsAt bytes.toList position (bigEndian 2 n.toNat) := by
  have fits : position + 2 ≤ bytes.size := by
    by_contra few
    have short : Reader.remaining ⟨bytes, position⟩ < 2 := by
      change bytes.size - position < 2
      omega
    rw [Reader.uint16, Reader.number_of_lt short] at h
    contradiction
  have hlength : ((bytes.toList.drop position).take 2).length = 2 := by
    rw [List.length_take, List.length_drop, Array.length_toList]
    omega
  obtain ⟨n', hn'⟩ := exists_halfword hlength
  have stands : StandsAt bytes.toList position (bigEndian 2 n'.toNat) := by
    refine ⟨bytes.toList.take position, (bytes.toList.drop position).drop 2, ?_, ?_⟩
    · rw [← hn', List.append_assoc, List.take_append_drop, List.take_append_drop]
    · exact List.length_take_of_le (by rw [Array.length_toList]; omega)
  rw [stands.uint16] at h
  cases h
  exact stands

end

end StandsAt

theorem Block.standsAt_item {file : List UInt8} {b : Block} {base : UInt32} {position : Nat}
    (h : StandsAt file position (b.assemble base)) {before after : List CodeItem} {item : CodeItem}
    (hitems : b.items.toList = before ++ item :: after) :
    StandsAt file (position + CodeItem.totalSize before) (item.encode (b.address base)) := by
  rw [assemble, hitems, List.flatMap_append, List.flatMap_cons] at h
  have stands := h.right.left
  rwa [CodeItem.length_flatMap_encode] at stands

end ScriptMachine
