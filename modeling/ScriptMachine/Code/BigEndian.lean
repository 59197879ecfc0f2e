/-!
# Big-endian numbers

A field of fixed width holds a number with its most significant byte first. Writing
keeps the low-order bytes; reading takes a run of bytes of any length.
-/

namespace ScriptMachine

def bigEndian : Nat → Nat → List UInt8
  | 0, _ => []
  | width + 1, n => bigEndian width (n / 256) ++ [.ofNat n]

def ofBigEndian (bytes : List UInt8) : Nat :=
  bytes.foldl (fun n b => n * 256 + b.toNat) 0

theorem length_bigEndian (width n : Nat) : (bigEndian width n).length = width := by
  induction width generalizing n with
  | zero => rfl
  | succ width ih => simp [bigEndian, ih]

theorem ofBigEndian_bigEndian_two {n : Nat} (h : n < UInt16.size) :
    ofBigEndian (bigEndian 2 n) = n := by
  have bound : n < 65536 := h
  simp [bigEndian, ofBigEndian]
  omega

theorem ofBigEndian_bigEndian_four {n : Nat} (h : n < UInt32.size) :
    ofBigEndian (bigEndian 4 n) = n := by
  have bound : n < 4294967296 := h
  simp [bigEndian, ofBigEndian]
  omega

end ScriptMachine
