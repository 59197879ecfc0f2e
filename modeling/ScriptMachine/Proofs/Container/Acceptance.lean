import ScriptMachine.Proofs.Container.Resolution

/-!
# What the decoder accepts

A file below the limit of 32-bit offsets is decoded exactly if it has a sound layout, and
then to what the layout says: the procedures are the records in order, and each table
maps the offset of every entry to its text. Any other file is refused with its first
defect.
-/

namespace ScriptMachine.Container

open RawEntry

/-! The parts of a file in order. -/

def afterRecords (rs : List Record) : Decoding Head := do
  let identifiers ← table .identifier (← read Reader.uint32)
  return ⟨rs, identifiers, ← read Reader.uint32⟩

theorem head_of_lt {file : List UInt8} (h : file.length < headerSize) :
    head (.between [] file) = .error (.truncated ⟨headerSize, 0, file.length⟩) := by
  have hseek : read (Reader.seek headerSize) (.between [] file) =
      .error (.truncated ⟨headerSize, 0, file.length⟩) := by
    rw [read, Reader.seek_between_of_lt file h]
  rw [head, bind_of_error hseek]

theorem head_header {header : List UInt8} (h : header.length = headerSize) (more : List UInt8) :
    head (.between [] (header ++ more)) =
      (read Reader.uint32 >>= fun count => records count.toNat >>= afterRecords)
        (.between header more) := by
  have hseek : read (Reader.seek headerSize) (.between [] (header ++ more)) =
      .ok ((), .between header more) := by
    rw [read, Reader.seek_between _ (by simp [h])]
    simp [← h]
  rw [head, bind_of_ok hseek]
  rfl

theorem head_front (f : Front) (hf : f.records.length < UInt32.size) (more : List UInt8) :
    head (.between [] (f.bytes ++ more)) = afterRecords f.records (.between f.bytes more) := by
  have hcount : (UInt32.ofNat f.records.length).toNat = f.records.length :=
    UInt32.toNat_ofNat_of_lt' hf
  have hread := read_uint32 f.header (f.records.flatMap Record.bytes ++ more)
    (.ofNat f.records.length)
  have hrecords := records_eq_ok (f.header ++ bigEndian 4 f.records.length) more f.records
  rw [hcount] at hread
  rw [Front.bytes, List.append_assoc, List.append_assoc, head_header f.header_length,
    bind_of_ok hread, hcount, bind_of_ok hrecords, List.append_assoc]

theorem afterRecords_sizedRun (rs : List Record) (behind more : List UInt8) {es : List RawEntry}
    (hes : (run es).length < UInt32.size) :
    afterRecords rs (.between behind (sizedRun es ++ more)) =
      (read Reader.uint32 >>= fun signature => pure ⟨rs, tableOf es, signature⟩)
        (.between (behind ++ sizedRun es) more) := by
  have hsize : (UInt32.ofNat (run es).length).toNat = (run es).length :=
    UInt32.toNat_ofNat_of_lt' hes
  have hread := read_uint32 behind (run es ++ more) (.ofNat (run es).length)
  rw [hsize] at hread
  rw [sizedRun, List.append_assoc, afterRecords, bind_of_ok hread,
    bind_of_ok (table_run _ more .identifier es hsize.symm), List.append_assoc]

theorem afterRecords_signature (rs : List Record) (behind more : List UInt8) {es : List RawEntry}
    (hes : (run es).length < UInt32.size) (signature : UInt32) :
    afterRecords rs (.between behind (sizedRun es ++ (bigEndian 4 signature.toNat ++ more))) =
      .ok (⟨rs, tableOf es, signature⟩,
        .between (behind ++ sizedRun es ++ bigEndian 4 signature.toNat) more) := by
  rw [afterRecords_sizedRun rs behind _ hes, bind_of_ok (read_uint32 _ more signature)]
  rfl

theorem stringTable_stringBytes (behind rest : List UInt8) (strings : Option (List RawEntry))
    (small : (run (strings.getD [])).length < absent.toNat) :
    stringTable (.between behind (Layout.stringBytes strings ++ rest)) =
      .ok (tableOf (strings.getD []), .between (behind ++ Layout.stringBytes strings) rest) := by
  cases strings with
  | none =>
    rw [Layout.stringBytes, stringTable, bind_of_ok (read_uint32 behind rest absent)]
    rfl
  | some es =>
    rw [Option.getD_some] at small ⊢
    have hsize : (UInt32.ofNat (run es).length).toNat = (run es).length :=
      UInt32.toNat_ofNat_of_lt' (Nat.lt_trans small absent.toNat_lt)
    have hmarker : UInt32.ofNat (run es).length ≠ absent := by
      intro heq
      rw [heq] at hsize
      omega
    have hread := read_uint32 behind (run es ++ rest) (.ofNat (run es).length)
    rw [hsize] at hread
    rw [Layout.stringBytes, sizedRun, List.append_assoc, stringTable, bind_of_ok hread,
      if_neg hmarker, table_run _ rest .string es hsize.symm, List.append_assoc]

/-! Whole files. -/

section

variable {name : String} {file : Array UInt8}

theorem decode_of_head {e : DecodeError} (h : head (.between [] file.toList) = .error e) :
    decode name file = .error e := by
  rw [decode, StateT.run, Reader.ofBytes_eq_between, h]
  rfl

theorem decode_of_stringTable {hd : Head} {r : Reader} {e : DecodeError}
    (h : head (.between [] file.toList) = .ok (hd, r)) (hs : stringTable r = .error e) :
    decode name file = .error e := by
  rw [decode, StateT.run, Reader.ofBytes_eq_between, h]
  change (stringTable r >>= _) = _
  rw [hs]
  rfl

theorem decode_of_tables {hd : Head} {r r' : Reader} {strings : List TableEntry}
    (h : head (.between [] file.toList) = .ok (hd, r)) (hs : stringTable r = .ok (strings, r')) :
    decode name file = (resolveAll hd.identifiers file.size 0 hd.records).map
      fun ps => ⟨name, file, ps.toArray, hd.identifiers, strings⟩ := by
  rw [decode, StateT.run, Reader.ofBytes_eq_between, h]
  change (stringTable r >>= _) = _
  rw [hs]
  cases resolveAll hd.identifiers file.size 0 hd.records <;> rfl

theorem Front.length_bytes (f : Front) :
    f.bytes.length = headerSize + 4 + recordSize * f.records.length := by
  rw [Front.bytes, List.length_append, List.length_append, length_flatMap_bytes, length_bigEndian,
    f.header_length]

theorem Front.length_records_lt {f : Front} {size : Nat} (h : f.bytes.length ≤ size) :
    f.records.length < size := by
  rw [f.length_bytes, headerSize, recordSize] at h
  omega

theorem Layout.length_bytes (l : Layout) :
    l.bytes.length = l.toFront.bytes.length + (sizedRun l.identifiers).length + 4 +
      (stringBytes l.strings).length + l.rest.length := by
  simp only [Layout.bytes, List.length_append, length_bigEndian]

theorem Layout.length_strings (l : Layout) :
    4 + (run (l.strings.getD [])).length = (stringBytes l.strings).length := by
  cases l.strings with
  | none => rfl
  | some es => exact (length_sizedRun es).symm

structure Layout.DecodesTo (l : Layout) (c : Container) : Prop where
  procedures : List.Forall₂ l.Reads l.records c.procedures.toList
  identifiers : c.identifiers.map (fun t => (t.offset.toNat, t.text.toList)) =
    (located firstOffset l.identifiers).map fun (k, e) => (k, e.characters)
  strings : c.strings.map (fun t => (t.offset.toNat, t.text.toList)) =
    (located firstOffset (l.strings.getD [])).map fun (k, e) => (k, e.characters)
  identifier? : ∀ k text, c.identifier? k = some text ↔
    ∃ e, (k.toNat, e) ∈ located firstOffset l.identifiers ∧ text.toList = e.characters
  string? : ∀ k text, c.string? k = some text ↔
    ∃ e, (k.toNat, e) ∈ located firstOffset (l.strings.getD []) ∧ text.toList = e.characters

variable (small : file.size < UInt32.size)

include small

theorem head_signature {f : Front} {es : List RawEntry} {signature : UInt32} {more : List UInt8}
    (h : file.toList = f.bytes ++ sizedRun es ++ bigEndian 4 signature.toNat ++ more) :
    head (.between [] file.toList) = .ok (⟨f.records, tableOf es, signature⟩,
      .between (f.bytes ++ sizedRun es ++ bigEndian 4 signature.toNat) more) := by
  have hlength : file.toList.length < UInt32.size := by rwa [Array.length_toList]
  rw [h, List.append_assoc, List.append_assoc] at hlength ⊢
  rw [List.length_append, List.length_append, length_sizedRun] at hlength
  rw [head_front f (Front.length_records_lt (by omega)), afterRecords_signature _ _ _ (by omega)]

theorem head_layout {l : Layout} (h : l.bytes = file.toList) :
    ∃ r behind, head (.between [] file.toList) =
        .ok (⟨l.records, tableOf l.identifiers, l.signature⟩, r) ∧
      stringTable r = .ok (tableOf (l.strings.getD []), .between behind l.rest) ∧
      l.bytes = behind ++ l.rest := by
  have hsize : l.bytes.length < UInt32.size := by rwa [h, Array.length_toList]
  rw [l.length_bytes, length_sizedRun, ← l.length_strings] at hsize
  have hmarker : (run (l.strings.getD [])).length < absent.toNat := by
    change _ < UInt32.size - 1
    omega
  have hparts : file.toList = l.toFront.bytes ++ sizedRun l.identifiers ++
      bigEndian 4 l.signature.toNat ++ (Layout.stringBytes l.strings ++ l.rest) := by
    rw [← h, Layout.bytes, List.append_assoc]
  exact ⟨_, _, head_signature small hparts, stringTable_stringBytes _ l.rest l.strings hmarker, rfl⟩

variable (name) in
theorem decode_layout {l : Layout} (h : l.bytes = file.toList) :
    decode name file = (resolveAll (tableOf l.identifiers) file.size 0 l.records).map
      fun ps => ⟨name, file, ps.toArray, tableOf l.identifiers, tableOf (l.strings.getD [])⟩ := by
  obtain ⟨r, behind, hhead, hstrings, -⟩ := head_layout small h
  exact decode_of_tables hhead hstrings

theorem firstOffset_add_le {l : Layout} (h : l.bytes = file.toList) :
    firstOffset + (run l.identifiers).length ≤ UInt32.size ∧
      firstOffset + (run (l.strings.getD [])).length ≤ UInt32.size := by
  have hsize : l.bytes.length < UInt32.size := by rwa [h, Array.length_toList]
  rw [l.length_bytes, length_sizedRun, ← l.length_strings, Front.length_bytes, headerSize] at hsize
  rw [firstOffset]
  omega

variable (name) in
theorem decode_sound {l : Layout} (h : l.bytes = file.toList) (sound : l.Sound file.size) :
    ∃ c, decode name file = .ok c ∧ c.name = name ∧ c.code = file ∧ l.DecodesTo c := by
  obtain ⟨hids, hstrs⟩ := firstOffset_add_le small h
  obtain ⟨ps, all, hps⟩ := resolveAll_sound hids sound
  have hdecode := decode_layout name small h
  rw [hps] at hdecode
  refine ⟨_, hdecode, rfl, rfl, all, ?_, ?_, ?_, ?_⟩
  · exact tableOf_eq_located hids
  · exact tableOf_eq_located hstrs
  · exact entryText?_tableOf hids
  · exact entryText?_tableOf hstrs

theorem decode_unresolved {l : Layout} (h : file.toList = l.bytes) {before after : List Record}
    {r : Record} (hrecords : l.records = before ++ r :: after)
    (hbefore : ∀ p ∈ before, l.Admits file.toList.length p) {e : DecodeError}
    (hr : resolve (tableOf l.identifiers) file.size before.length r = .error e) :
    decode name file = .error e := by
  rw [Array.length_toList] at hbefore
  rw [decode_layout name small h.symm, hrecords,
    resolveAll_eq_error (firstOffset_add_le small h.symm).1 hbefore hr]
  rfl

theorem entryText?_eq_none {l : Layout} (h : file.toList = l.bytes) {offset : UInt32}
    (hname : ∀ e, ¬ l.Names offset e) : entryText? (tableOf l.identifiers) offset = none := by
  apply Option.eq_none_iff_forall_ne_some.mpr
  intro text htext
  obtain ⟨e, he, -⟩ :=
    (entryText?_tableOf (firstOffset_add_le small h.symm).1 offset text).mp htext
  exact hname e he

theorem entryText?_eq_some {l : Layout} (h : file.toList = l.bytes) {offset : UInt32}
    {e : RawEntry} {name : String} (hname : l.Names offset e) (read : name.toList = e.characters) :
    entryText? (tableOf l.identifiers) offset = some name :=
  (entryText?_tableOf (firstOffset_add_le small h.symm).1 offset _).mpr ⟨e, hname, read⟩

theorem decode_defect {e : DecodeError} (h : FirstDefect file.toList e) :
    decode name file = .error e := by
  have hlength : file.toList.length < UInt32.size := by rwa [Array.length_toList]
  cases h with
  | header hfile => exact decode_of_head (head_of_lt hfile)
  | count header few hheader hfew hfile =>
    apply decode_of_head
    rw [hfile, head_header hheader, bind_of_error (read_uint32_of_lt header few hfew),
      List.length_append, hheader]
  | record header count records few hheader hcount hfew hfile =>
    apply decode_of_head
    rw [hfile, List.append_assoc, List.append_assoc, head_header hheader,
      bind_of_ok (read_uint32 header _ count),
      bind_of_error (records_eq_error _ few hcount hfew)]
    simp only [List.length_append, length_bigEndian, hheader, length_flatMap_bytes]
    congr 3
    omega
  | identifierSize f few hfew hfile =>
    apply decode_of_head
    rw [hfile] at hlength ⊢
    rw [List.length_append] at hlength
    rw [head_front f (Front.length_records_lt (by omega)), afterRecords,
      bind_of_error (read_uint32_of_lt f.bytes few hfew), List.length_append]
  | identifiers f declared bad hfile =>
    apply decode_of_head
    rw [hfile, List.append_assoc] at hlength ⊢
    rw [List.length_append] at hlength
    rw [head_front f (Front.length_records_lt (by omega)), afterRecords,
      bind_of_ok (read_uint32 f.bytes _ declared), bind_of_error (table_bad _ .identifier bad)]
  | signature f es few hfew hfile =>
    apply decode_of_head
    rw [hfile, List.append_assoc] at hlength ⊢
    rw [List.length_append, List.length_append, length_sizedRun] at hlength
    rw [head_front f (Front.length_records_lt (by omega)),
      afterRecords_sizedRun _ _ _ (by omega), bind_of_error (read_uint32_of_lt _ few hfew),
      ← List.append_assoc, @List.length_append _ (f.bytes ++ _)]
  | stringSize f es signature few hfew hfile =>
    apply decode_of_stringTable (head_signature small hfile)
    rw [stringTable, bind_of_error (read_uint32_of_lt _ few hfew), hfile]
    simp only [List.length_append, length_bigEndian]
  | @strings f es signature declared bytes available hmarker bad hfile =>
    rw [List.append_assoc _ (bigEndian 4 declared.toNat)] at hfile
    apply decode_of_stringTable (head_signature small hfile)
    rw [stringTable, bind_of_ok (read_uint32 _ _ declared), if_neg hmarker,
      table_bad _ .string bad]
  | name l before r after hfile hrecords hbefore hname =>
    apply decode_unresolved small hfile hrecords hbefore
    rw [resolve, entryText?_eq_none small hfile hname]
  | body l before r after e name hfile hrecords hbefore hname read hbody =>
    apply decode_unresolved small hfile hrecords hbefore
    rw [Array.length_toList] at hbody ⊢
    simp [resolve, entryText?_eq_some small hfile hname read, hbody]
  | condition l before r after e name hfile hrecords hbefore hname read hbody hcondition =>
    apply decode_unresolved small hfile hrecords hbefore
    rw [Array.length_toList] at hbody hcondition ⊢
    simp [resolve, entryText?_eq_some small hfile hname read, Nat.not_le.mpr hbody, hcondition]

end

theorem code_of_decode {name : String} {file : Array UInt8} {c : Container}
    (h : decode name file = .ok c) : c.code = file := by
  rw [decode] at h
  cases hhead : head.run (.ofBytes file) with
  | error e =>
    rw [hhead] at h
    contradiction
  | ok p =>
    rw [hhead] at h
    cases hstrings : stringTable.run p.2 with
    | error e => simp [bind, Except.bind, hstrings] at h
    | ok s =>
      cases hall : resolveAll p.1.identifiers file.size 0 p.1.records with
      | error e => simp [bind, Except.bind, hstrings, hall] at h
      | ok ps =>
        simp only [bind, Except.bind, hstrings, hall] at h
        cases h
        rfl

/-- The decoder accepts exactly its format. It succeeds on the files with a sound layout,
every layout of the file then says what was decoded, and its errors are the first
defects. -/
theorem decode_iff_layout (name : String) (file : Array UInt8) (small : file.size < UInt32.size) :
    ((∃ c, decode name file = .ok c) ↔
      ∃ l : Layout, l.bytes = file.toList ∧ l.Sound file.size) ∧
    (∀ (c : Container) (l : Layout), decode name file = .ok c → l.bytes = file.toList →
      c.name = name ∧ c.code = file ∧ l.DecodesTo c) ∧
    ∀ e, decode name file = .error e ↔ FirstDefect file.toList e := by
  have refused {e : DecodeError} (h : FirstDefect file.toList e) : decode name file = .error e :=
    decode_defect small h
  refine ⟨⟨?_, ?_⟩, ?_, ?_⟩
  · intro h
    obtain ⟨c, hc⟩ := h
    rcases layout_or_defect file.toList with ⟨l, hl, sound⟩ | ⟨e, he⟩
    · exact ⟨l, hl, by rwa [Array.length_toList] at sound⟩
    · rw [refused he] at hc
      contradiction
  · intro h
    obtain ⟨l, hl, sound⟩ := h
    obtain ⟨c, hc, -⟩ := decode_sound name small hl sound
    exact ⟨c, hc⟩
  · intro c l hc hl
    rcases l.sound_or_defect with sound | ⟨e, he⟩
    · rw [hl, Array.length_toList] at sound
      obtain ⟨c', hc', decodes⟩ := decode_sound name small hl sound
      rw [hc] at hc'
      cases hc'
      exact decodes
    · rw [hl] at he
      rw [refused he] at hc
      contradiction
  · intro e
    refine ⟨fun he => ?_, refused⟩
    rcases layout_or_defect file.toList with ⟨l, hl, sound⟩ | ⟨e', he'⟩
    · rw [Array.length_toList] at sound
      obtain ⟨c, hc, -⟩ := decode_sound name small hl sound
      rw [he] at hc
      contradiction
    · rw [refused he'] at he
      cases he
      exact he'

theorem entry_injective (t t' : TableEntry)
    (h : (t.offset.toNat, t.text.toList) = (t'.offset.toNat, t'.text.toList)) : t = t' := by
  obtain ⟨offset, text⟩ := t
  obtain ⟨offset', text'⟩ := t'
  obtain ⟨hoffset, htext⟩ := Prod.mk.inj h
  cases UInt32.toNat_inj.mp hoffset
  cases String.toList_inj.mp htext
  rfl

def doorLayout : Layout where
  header := List.replicate headerSize 0
  header_length := rfl
  records := [⟨6, 0x103, 30, 45, 50, 2⟩]
  identifiers := [⟨[0x67, 0x6F, 0], by decide⟩]
  signature := signature
  strings := some [⟨[0xE9, 0x74], by decide⟩]
  rest := [0x80, 0x1C]

theorem decode_door :
    doorLayout.bytes.toArray.size < UInt32.size ∧
    ∃ c, decode "door" doorLayout.bytes.toArray = .ok c ∧ doorLayout.DecodesTo c ∧
      c.procedures.toList = [⟨"go", ⟨0x103⟩, 30, 45, 50, 2⟩] ∧
      c.identifiers = [⟨6, "go"⟩] ∧ c.strings = [⟨6, "\u00E9t"⟩] := by
  have small : doorLayout.bytes.toArray.size < UInt32.size := by decide
  have sound : doorLayout.Sound doorLayout.bytes.toArray.size := by
    intro r hr
    obtain rfl := List.mem_singleton.mp hr
    exact ⟨⟨_, List.mem_singleton.mpr rfl⟩, by decide, by decide⟩
  obtain ⟨accepts, decodes, -⟩ := decode_iff_layout "door" doorLayout.bytes.toArray small
  obtain ⟨c, hc⟩ := accepts.mpr ⟨doorLayout, rfl, sound⟩
  obtain ⟨-, -, decodes⟩ := decodes c doorLayout hc rfl
  refine ⟨small, c, hc, decodes, ?_, ?_, ?_⟩
  · obtain ⟨procedures, -⟩ := decodes
    generalize c.procedures.toList = ps at procedures
    cases procedures with
    | @cons _ q _ _ reads rest =>
      cases rest
      obtain ⟨⟨e, named, name⟩, flags, delay, condition, body, argumentCount⟩ := reads
      cases List.mem_singleton.mp named
      obtain ⟨_, ⟨bits⟩, _, _, _, _⟩ := q
      obtain rfl := String.toList_inj.mp (name.trans (by decide : _ = "go".toList))
      cases flags
      cases delay
      cases condition
      cases body
      cases argumentCount
      rfl
  · exact (List.map_inj_right entry_injective).mp (decodes.identifiers.trans (by decide))
  · exact (List.map_inj_right entry_injective).mp (decodes.strings.trans (by decide))

end ScriptMachine.Container
