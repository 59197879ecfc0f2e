import ScriptMachine.Proofs.Code.Reading

/-!
# Operations of a reader

Whatever has been done with a reader, it stands within its bytes. The next operation wants bytes
at some place. If the code has them, the answer is what these bytes say and the cursor moves past
them, except for a peek. If not, the error names the place and the count, and nothing changes.
-/

namespace ScriptMachine

/-! Bytes that are as many as a number has. -/

section

variable {bytes : List UInt8}

theorem toNat_byte (h : bytes.length = 1) :
    (UInt8.ofNat (ofBigEndian bytes)).toNat = ofBigEndian bytes := by
  have bound := ofBigEndian_lt bytes
  rw [h] at bound
  exact UInt8.toNat_ofNat_of_lt' bound

theorem toNat_halfword (h : bytes.length = 2) :
    (UInt16.ofNat (ofBigEndian bytes)).toNat = ofBigEndian bytes := by
  have bound := ofBigEndian_lt bytes
  rw [h] at bound
  exact UInt16.toNat_ofNat_of_lt' bound

theorem toNat_word (h : bytes.length = 4) :
    (UInt32.ofNat (ofBigEndian bytes)).toNat = ofBigEndian bytes := by
  have bound := ofBigEndian_lt bytes
  rw [h] at bound
  exact UInt32.toNat_ofNat_of_lt' bound

end

namespace Reader

inductive Operation where
  | seek (offset : Nat)
  | skip (count : Nat)
  | take (count : Nat)
  | peek (offset : Nat)
  | uint8
  | uint16
  | uint32
  | int8
  | int16
  | int32
  | float32

namespace Operation

@[reducible]
def Answer : Operation → Type
  | .seek _ | .skip _ => Unit
  | .take _ => List UInt8
  | .uint8 => UInt8
  | .peek _ | .uint16 => UInt16
  | .uint32 => UInt32
  | .int8 => Int8
  | .int16 => Int16
  | .int32 => Int32
  | .float32 => Single

def run : (o : Operation) → Work o.Answer
  | .seek offset => Reader.seek offset
  | .skip count => Reader.skip count
  | .take count => Reader.take count
  | .peek offset => Reader.peek offset
  | .uint8 => Reader.uint8
  | .uint16 => Reader.uint16
  | .uint32 => Reader.uint32
  | .int8 => Reader.int8
  | .int16 => Reader.int16
  | .int32 => Reader.int32
  | .float32 => Reader.float32

def start (r : Reader) : Operation → Nat
  | .seek offset | .peek offset => offset
  | _ => r.position

def width : Operation → Nat
  | .seek _ => 0
  | .skip count | .take count => count
  | .uint8 | .int8 => 1
  | .peek _ | .uint16 | .int16 => 2
  | .uint32 | .int32 | .float32 => 4

def finish (r : Reader) : Operation → Nat
  | .peek _ => r.position
  | o => o.start r + o.width

/-- The answer is what the bytes say, signed numbers in two's complement. -/
def Reads (bytes : List UInt8) : (o : Operation) → o.Answer → Prop
  | .seek _, _ | .skip _, _ => True
  | .take _, taken => taken = bytes
  | .uint8, n | .peek _, n | .uint16, n | .uint32, n => n.toNat = ofBigEndian bytes
  | .int8, n => n.toInt = Int.bmod (ofBigEndian bytes) UInt8.size
  | .int16, n => n.toInt = Int.bmod (ofBigEndian bytes) UInt16.size
  | .int32, n => n.toInt = Int.bmod (ofBigEndian bytes) UInt32.size
  | .float32, x => x.bits.toNat = ofBigEndian bytes

end Operation

def after (r : Reader) (o : Operation) : Reader :=
  match o.run r with
  | .ok _ r' => r'
  | .error _ r' => r'

/-! One field, from wherever the cursor stands. -/

section

variable {α : Type} {width : Nat} {means : List UInt8 → α → Prop} {view : Nat → α}

/-- The bytes of the width are passed and answered with what they mean. If they are not all there
the reader stays as it is. -/
def Decodes (width : Nat) (means : List UInt8 → α → Prop) (read : Work α) : Prop :=
  ∀ r, (r.position + width ≤ r.size →
      ∃ a, read r = .ok a { r with position := r.position + width } ∧
        means (r.bytes.extract r.position (r.position + width)).toList a) ∧
    (r.size < r.position + width → read r = .error ⟨r.position, width, r.size⟩ r)

theorem decodes_take (count : Nat) :
    Decodes count (fun bytes taken => taken = bytes) (take count) :=
  fun _ => ⟨fun fits => ⟨_, take_of_le fits, rfl⟩, take_of_lt⟩

theorem decodes_skip (count : Nat) : Decodes count (fun _ _ => True) (skip count) := by
  intro r
  constructor
  · intro fits
    have read : skip count r = .ok () { r with position := r.position + count } := by
      change EStateM.map (fun _ => ()) (take count) r = _
      simp only [EStateM.map, take_of_le fits]
    exact ⟨(), read, trivial⟩
  · intro cut
    change EStateM.map (fun _ => ()) (take count) r = _
    simp only [EStateM.map, take_of_lt cut]

-- A cursor beyond the end has nothing left either, so that a number needs some width.
theorem decodes_number (positive : 0 < width)
    (h : ∀ bytes, bytes.length = width → means bytes (view (ofBigEndian bytes))) :
    Decodes width means (number width view) := by
  intro r
  constructor
  · intro fits
    have left : width ≤ r.remaining := by
      rw [remaining]
      omega
    refine ⟨_, number_of_le left, h _ ?_⟩
    rw [Array.length_toList, Array.size_extract]
    rw [size] at fits
    omega
  · intro cut
    apply number_of_lt
    rw [remaining]
    omega

theorem decodes_uint8 : Decodes 1 (Operation.Reads · .uint8) uint8 :=
  decodes_number (by decide) fun _ => toNat_byte

theorem decodes_uint16 : Decodes 2 (Operation.Reads · .uint16) uint16 :=
  decodes_number (by decide) fun _ => toNat_halfword

theorem decodes_uint32 : Decodes 4 (Operation.Reads · .uint32) uint32 :=
  decodes_number (by decide) fun _ => toNat_word

theorem decodes_int8 : Decodes 1 (Operation.Reads · .int8) int8 :=
  decodes_number (by decide) fun bytes length =>
    (BitVec.toInt_eq_toNat_bmod (UInt8.ofNat (ofBigEndian bytes)).toBitVec).trans
      (congrArg (fun n : Nat => Int.bmod n UInt8.size) (toNat_byte length))

theorem decodes_int16 : Decodes 2 (Operation.Reads · .int16) int16 :=
  decodes_number (by decide) fun bytes length =>
    (BitVec.toInt_eq_toNat_bmod (UInt16.ofNat (ofBigEndian bytes)).toBitVec).trans
      (congrArg (fun n : Nat => Int.bmod n UInt16.size) (toNat_halfword length))

theorem decodes_int32 : Decodes 4 (Operation.Reads · .int32) int32 :=
  decodes_number (by decide) fun bytes length =>
    (BitVec.toInt_eq_toNat_bmod (UInt32.ofNat (ofBigEndian bytes)).toBitVec).trans
      (congrArg (fun n : Nat => Int.bmod n UInt32.size) (toNat_word length))

theorem decodes_float32 : Decodes 4 (Operation.Reads · .float32) float32 :=
  decodes_number (by decide) fun _ => toNat_word

end

/-! One operation, and any sequence of them. -/

theorem run_operation (o : Operation) (r : Reader) :
    (o.start r + o.width ≤ r.size →
      ∃ a, o.run r = .ok a { r with position := o.finish r } ∧
        o.Reads (r.bytes.extract (o.start r) (o.start r + o.width)).toList a) ∧
    (r.size < o.start r + o.width → o.run r = .error ⟨o.start r, o.width, r.size⟩ r) := by
  cases o with
  | seek offset => exact ⟨fun inside => ⟨(), seek_of_le inside, trivial⟩, seek_of_lt⟩
  | peek offset =>
    obtain ⟨whole, short⟩ := decodes_uint16 { r with position := offset }
    constructor
    · intro fits
      obtain ⟨n, hread, hn⟩ := whole fits
      exact ⟨n, by simp only [Operation.run, peek, hread]; rfl, hn⟩
    · intro cut
      simp only [Operation.run, peek, short cut]
      rfl
  | skip count => exact decodes_skip count r
  | take count => exact decodes_take count r
  | uint8 => exact decodes_uint8 r
  | uint16 => exact decodes_uint16 r
  | uint32 => exact decodes_uint32 r
  | int8 => exact decodes_int8 r
  | int16 => exact decodes_int16 r
  | int32 => exact decodes_int32 r
  | float32 => exact decodes_float32 r

variable {r : Reader} {o : Operation}

theorem after_of_le (h : o.start r + o.width ≤ r.size) :
    r.after o = { r with position := o.finish r } := by
  obtain ⟨a, hrun, -⟩ := (run_operation o r).1 h
  rw [after, hrun]

theorem after_of_lt (h : r.size < o.start r + o.width) : r.after o = r := by
  rw [after, (run_operation o r).2 h]

theorem after_peek (r : Reader) (offset : Nat) : r.after (.peek offset) = r := by
  rcases Nat.lt_or_ge r.size (offset + 2) with cut | fits
  · exact after_of_lt cut
  · exact after_of_le fits

structure Within (bytes : Array UInt8) (r : Reader) : Prop where
  bytes : r.bytes = bytes
  position : r.position ≤ r.size

namespace Within

variable {bytes : Array UInt8}

theorem ofBytes (bytes : Array UInt8) : Within bytes (ofBytes bytes) :=
  ⟨rfl, Nat.zero_le _⟩

theorem after (h : Within bytes r) (o : Operation) : Within bytes (r.after o) := by
  rcases Nat.lt_or_ge r.size (o.start r + o.width) with cut | fits
  · rw [after_of_lt cut]
    exact h
  · rw [after_of_le fits]
    refine ⟨h.bytes, ?_⟩
    cases o with
    | peek offset => exact h.position
    | _ => exact fits

theorem foldl (h : Within bytes r) (done : List Operation) :
    Within bytes (done.foldl Reader.after r) := by
  induction done generalizing r with
  | nil => exact h
  | cons o rest ih => exact ih (h.after o)

end Within

/-- Whatever has been done with a new reader, the bytes before the cursor and those remaining are
all there are. The next operation succeeds exactly if the bytes it wants are there. Its answer is
then what they say, and the cursor stands behind them; it does not move at all if the operation
fails or is a peek. -/
theorem operations_in_discipline (bytes : Array UInt8) (done : List Operation) (o : Operation) :
    let r := done.foldl after (ofBytes bytes)
    (r.bytes = bytes ∧ r.position ≤ r.size ∧ r.position + r.remaining = r.size) ∧
      (o.start r + o.width ≤ r.size →
        ∃ a, o.run r = .ok a { r with position := o.finish r } ∧
          o.Reads (bytes.extract (o.start r) (o.start r + o.width)).toList a) ∧
      (r.size < o.start r + o.width →
        o.run r = .error ⟨o.start r, o.width, r.size⟩ r ∧ r.after o = r) ∧
      ∀ offset, r.after (.peek offset) = r := by
  intro r
  have within : Within bytes r := (Within.ofBytes bytes).foldl done
  obtain ⟨whole, short⟩ := run_operation o r
  refine ⟨⟨within.bytes, within.position, Nat.add_sub_cancel' within.position⟩, ?_,
    fun cut => ⟨short cut, after_of_lt cut⟩, r.after_peek⟩
  rw [← within.bytes]
  exact whole

example : ([.int16, .float32, .peek 2, .skip 9, .uint8].foldl after
    (ofBytes #[0xFF, 0xFE, 0x3F, 0xC0, 0x00])).position = 3 := by decide

end Reader

end ScriptMachine
