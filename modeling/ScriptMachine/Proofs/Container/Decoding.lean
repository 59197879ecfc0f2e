import ScriptMachine.Proofs.Container.Format

/-!
# Decoding follows the format

The decoder accepts exactly the files with a sound layout, answers what the layout says,
and otherwise reports the first defect. Each reader is run forwards on the bytes it is
meant for, with arbitrary bytes behind and ahead; that the format leaves no third
possibility turns these runs into equivalences.
-/

namespace ScriptMachine.Container

open RawEntry

/-! Readers in sequence. -/

section

variable {α β : Type} {x : Decoding α} {f : α → Decoding β} {r r' : Reader} {a : α}
  {e : DecodeError}

theorem bind_of_ok (h : x r = .ok (a, r')) : (x >>= f) r = f a r' := by
  simp [bind, StateT.bind, h, Except.bind]

theorem bind_of_error (h : x r = .error e) : (x >>= f) r = .error e := by
  simp [bind, StateT.bind, h, Except.bind]

end

variable (behind ahead : List UInt8)

theorem read_uint32 (n : UInt32) :
    read Reader.uint32 (.between behind (bigEndian 4 n.toNat ++ ahead)) =
      .ok (n, .between (behind ++ bigEndian 4 n.toNat) ahead) := by
  rw [read, Reader.uint32_between]

theorem read_uint32_of_lt (h : ahead.length < 4) :
    read Reader.uint32 (.between behind ahead) =
      .error (.truncated ⟨behind.length, 4, behind.length + ahead.length⟩) := by
  rw [read, Reader.uint32_between_of_lt behind ahead h]

theorem read_take {count : Nat} (bytes : List UInt8) (h : bytes.length = count) :
    read (Reader.take count) (.between behind (bytes ++ ahead)) =
      .ok (bytes, .between (behind ++ bytes) ahead) := by
  subst h
  rw [read, Reader.take_between]

theorem read_take_of_lt {count : Nat} (h : ahead.length < count) :
    read (Reader.take count) (.between behind ahead) =
      .error (.truncated ⟨behind.length, count, behind.length + ahead.length⟩) := by
  rw [read, Reader.take_between_of_lt behind ahead h]

/-! Records. -/

theorem Record.ofBytes_bytes (r : Record) : Record.ofBytes r.bytes = r := by
  have field (n : UInt32) : UInt32.ofNat (ofBigEndian (bigEndian 4 n.toNat)) = n := by
    rw [ofBigEndian_bigEndian_four n.toNat_lt, UInt32.ofNat_toNat]
  change Record.mk (.ofNat (ofBigEndian (bigEndian 4 r.nameOffset.toNat)))
    (.ofNat (ofBigEndian (bigEndian 4 r.flags.toNat)))
    (.ofNat (ofBigEndian (bigEndian 4 r.delay.toNat)))
    (.ofNat (ofBigEndian (bigEndian 4 r.condition.toNat)))
    (.ofNat (ofBigEndian (bigEndian 4 r.body.toNat)))
    (.ofNat (ofBigEndian (bigEndian 4 r.argumentCount.toNat))) = r
  simp only [field]

theorem records_succ (count : Nat) (r : Record) :
    records (count + 1) (.between behind (r.bytes ++ ahead)) =
      (records count (.between (behind ++ r.bytes) ahead)).map fun (list, s) => (r :: list, s) := by
  rw [records, bind_of_ok (read_take behind ahead r.bytes r.length_bytes)]
  cases h : records count (.between (behind ++ r.bytes) ahead) with
  | ok p => rw [bind_of_ok h, Record.ofBytes_bytes]; rfl
  | error e => rw [bind_of_error h]; rfl

theorem records_append (rs : List Record) (count : Nat) :
    records (rs.length + count) (.between behind (rs.flatMap Record.bytes ++ ahead)) =
      (records count (.between (behind ++ rs.flatMap Record.bytes) ahead)).map
        fun (list, s) => (rs ++ list, s) := by
  induction rs generalizing behind with
  | nil =>
    simp only [List.length_nil, Nat.zero_add, List.flatMap_nil, List.nil_append, List.append_nil]
    cases records count (.between behind ahead) <;> rfl
  | cons r rs ih =>
    have hcount : (r :: rs).length + count = rs.length + count + 1 := by
      rw [List.length_cons]
      omega
    rw [hcount, List.flatMap_cons, List.append_assoc, records_succ, ih, List.append_assoc]
    cases records count (.between (behind ++ (r.bytes ++ rs.flatMap Record.bytes)) ahead) <;> rfl

theorem records_eq_ok (rs : List Record) :
    records rs.length (.between behind (rs.flatMap Record.bytes ++ ahead)) =
      .ok (rs, .between (behind ++ rs.flatMap Record.bytes) ahead) := by
  rw [← Nat.add_zero rs.length, records_append]
  change Except.ok (rs ++ [], _) = _
  rw [List.append_nil]

theorem length_flatMap_bytes (rs : List Record) :
    (rs.flatMap Record.bytes).length = recordSize * rs.length := by
  induction rs with
  | nil => rfl
  | cons r rs ih =>
    rw [List.flatMap_cons, List.length_append, ih, r.length_bytes, List.length_cons, Nat.mul_succ,
      Nat.add_comm]

theorem records_eq_error {rs : List Record} {count : Nat} (hcount : rs.length < count)
    (few : ahead.length < recordSize) :
    records count (.between behind (rs.flatMap Record.bytes ++ ahead)) =
      .error (.truncated ⟨behind.length + recordSize * rs.length, recordSize,
        behind.length + recordSize * rs.length + ahead.length⟩) := by
  obtain ⟨more, rfl⟩ : ∃ more, count = rs.length + (more + 1) := ⟨count - rs.length - 1, by omega⟩
  rw [records_append, records, bind_of_error (read_take_of_lt _ ahead few), List.length_append,
    length_flatMap_bytes]
  rfl

/-! Tables. -/

def TableEntry.ofRaw (p : Nat × RawEntry) : TableEntry := ⟨.ofNat p.1, latin1 p.2.text⟩

def tableOf (es : List RawEntry) : List TableEntry :=
  (located firstOffset es).map TableEntry.ofRaw

theorem bigEndian_two (n : Nat) : bigEndian 2 n = [.ofNat (n / 256), .ofNat n] := rfl

theorem entries_bytes_append (offset : Nat) (e : RawEntry) (more : List UInt8) :
    entries offset (e.bytes ++ more) =
      (entries (offset + e.text.length + 2) more).map (TableEntry.ofRaw (offset, e) :: ·) := by
  have hlength : ofBigEndian [.ofNat (e.text.length / 256), .ofNat e.text.length] =
      e.text.length := ofBigEndian_bigEndian_two e.fits
  rw [RawEntry.bytes, bigEndian_two]
  simp only [List.cons_append, List.nil_append]
  rw [entries, hlength]
  simp only [List.length_append, Nat.le_add_right, ↓reduceIte, List.drop_left, List.take_left]
  cases entries (offset + e.text.length + 2) more <;> rfl

theorem entries_append (offset : Nat) (es : List RawEntry) (more : List UInt8) :
    entries offset (run es ++ more) =
      (entries (offset + (run es).length) more).map
        ((located offset es).map TableEntry.ofRaw ++ ·) := by
  induction es generalizing offset with
  | nil =>
    simp only [run, List.flatMap_nil, List.nil_append, List.length_nil, Nat.add_zero, located,
      List.map_nil]
    cases entries offset more <;> rfl
  | cons e es ih =>
    have hoffset : offset + e.text.length + 2 + (run es).length =
        offset + (run (e :: es)).length := by
      rw [length_run_cons]
      omega
    rw [run_cons, List.append_assoc, entries_bytes_append, ih, hoffset, ← run_cons, located]
    cases entries (offset + (run (e :: es)).length) more <;> rfl

theorem entries_run (es : List RawEntry) : entries firstOffset (run es) = .ok (tableOf es) := by
  have h := entries_append firstOffset es []
  rw [List.append_nil, entries] at h
  simpa [Except.map, tableOf] using h

theorem entries_stub {stub : List UInt8} {available : Nat} (h : Stub stub available)
    (offset : Nat) : entries offset stub = .error available := by
  cases h with
  | length byte => rw [entries]
  | text length tail fits cut =>
    have hlength : ofBigEndian [.ofNat (length / 256), .ofNat length] = length :=
      ofBigEndian_bigEndian_two fits
    rw [bigEndian_two]
    simp only [List.cons_append, List.nil_append]
    rw [entries, hlength, if_neg (Nat.not_le.mpr cut)]

theorem table_of_lt (name : TableName) {size : UInt32} (h : ahead.length < size.toNat) :
    table name size (.between behind ahead) = .error (.tableSize name size ahead.length) := by
  have hget : (get : Decoding Reader) (.between behind ahead) =
      .ok (.between behind ahead, .between behind ahead) := rfl
  rw [table, bind_of_ok hget, Reader.remaining_between, if_pos h]
  rfl

theorem table_of_le (name : TableName) {size : UInt32} (bytes : List UInt8)
    (h : bytes.length = size.toNat) :
    table name size (.between behind (bytes ++ ahead)) =
      match entries firstOffset bytes with
      | .ok list => .ok (list, .between (behind ++ bytes) ahead)
      | .error available => .error (.tableSize name size available) := by
  have hget : (get : Decoding Reader) (.between behind (bytes ++ ahead)) =
      .ok (.between behind (bytes ++ ahead), .between behind (bytes ++ ahead)) := rfl
  have fits : ¬ (bytes ++ ahead).length < size.toNat := by
    rw [List.length_append]
    omega
  rw [table, bind_of_ok hget, Reader.remaining_between, if_neg fits]
  change (read (Reader.take size.toNat) >>= _) _ = _
  rw [bind_of_ok (read_take behind ahead bytes h)]
  cases entries firstOffset bytes <;> rfl

theorem table_run (name : TableName) {size : UInt32} (es : List RawEntry)
    (h : (run es).length = size.toNat) :
    table name size (.between behind (run es ++ ahead)) =
      .ok (tableOf es, .between (behind ++ run es) ahead) := by
  rw [table_of_le behind ahead name (run es) h, entries_run]

theorem table_bad (name : TableName) {size : UInt32} {bytes : List UInt8} {available : Nat}
    (h : BadTable size.toNat bytes available) :
    table name size (.between behind bytes) = .error (.tableSize name size available) := by
  cases h with
  | short _ few => exact table_of_lt behind bytes name few
  | stub es rest cut hsize =>
    rw [table_of_le behind rest name _ hsize, entries_append, entries_stub cut]
    rfl

end ScriptMachine.Container
