import ScriptMachine.Proofs.Container.Fields

/-!
# The container format

What a container file is, written down without a decoder. A layout lists the parts that
a well-formed file splits into. A defect is a place where a file stops being one, with
the error it amounts to; it is the first one, since everything before it is in order.
Every file has a sound layout or a first defect.
-/

namespace ScriptMachine.Container

open RawEntry

structure Front where
  header : List UInt8
  header_length : header.length = headerSize
  records : List Record

def Front.bytes (f : Front) : List UInt8 :=
  f.header ++ bigEndian 4 f.records.length ++ f.records.flatMap Record.bytes

structure Layout extends Front where
  identifiers : List RawEntry
  signature : UInt32
  strings : Option (List RawEntry)
  rest : List UInt8

namespace Layout

def stringBytes : Option (List RawEntry) → List UInt8
  | none => bigEndian 4 absent.toNat
  | some entries => sizedRun entries

def bytes (l : Layout) : List UInt8 :=
  l.toFront.bytes ++ sizedRun l.identifiers ++ bigEndian 4 l.signature.toNat ++
    stringBytes l.strings ++ l.rest

def Names (l : Layout) (offset : UInt32) (e : RawEntry) : Prop :=
  (offset.toNat, e) ∈ located firstOffset l.identifiers

def Admits (l : Layout) (size : Nat) (r : Record) : Prop :=
  (∃ e, l.Names r.nameOffset e) ∧ r.body.toNat < size ∧ r.condition.toNat < size

def Sound (l : Layout) (size : Nat) : Prop := ∀ r ∈ l.records, l.Admits size r

end Layout

/-- The start of an entry that is cut off, and the count of bytes that are left: in place
of a length, or after it. -/
inductive Stub : List UInt8 → Nat → Prop where
  | length (byte : UInt8) : Stub [byte] 1
  | text (length : Nat) (tail : List UInt8) : length < UInt16.size → tail.length < length →
      Stub (bigEndian 2 length ++ tail) tail.length

inductive BadTable (declared : Nat) : List UInt8 → Nat → Prop where
  | short (bytes : List UInt8) : bytes.length < declared → BadTable declared bytes bytes.length
  | stub (entries : List RawEntry) {stub : List UInt8} {available : Nat} (rest : List UInt8) :
      Stub stub available → (run entries ++ stub).length = declared →
      BadTable declared (run entries ++ stub ++ rest) available

/-- The first defect of a file in reading order, and its error. -/
inductive FirstDefect (file : List UInt8) : DecodeError → Prop where
  | header : file.length < headerSize →
      FirstDefect file (.truncated ⟨headerSize, 0, file.length⟩)
  | count (header few : List UInt8) : header.length = headerSize → few.length < 4 →
      file = header ++ few → FirstDefect file (.truncated ⟨headerSize, 4, file.length⟩)
  | record (header : List UInt8) (count : UInt32) (records : List Record) (few : List UInt8) :
      header.length = headerSize → records.length < count.toNat → few.length < recordSize →
      file = header ++ bigEndian 4 count.toNat ++ records.flatMap Record.bytes ++ few →
      FirstDefect file
        (.truncated ⟨headerSize + 4 + recordSize * records.length, recordSize, file.length⟩)
  | identifierSize (f : Front) (few : List UInt8) : few.length < 4 → file = f.bytes ++ few →
      FirstDefect file (.truncated ⟨f.bytes.length, 4, file.length⟩)
  | identifiers (f : Front) (declared : UInt32) {bytes : List UInt8} {available : Nat} :
      BadTable declared.toNat bytes available →
      file = f.bytes ++ bigEndian 4 declared.toNat ++ bytes →
      FirstDefect file (.tableSize .identifier declared available)
  | signature (f : Front) (entries : List RawEntry) (few : List UInt8) : few.length < 4 →
      file = f.bytes ++ sizedRun entries ++ few →
      FirstDefect file (.truncated ⟨(f.bytes ++ sizedRun entries).length, 4, file.length⟩)
  | stringSize (f : Front) (entries : List RawEntry) (signature : UInt32) (few : List UInt8) :
      few.length < 4 → file = f.bytes ++ sizedRun entries ++ bigEndian 4 signature.toNat ++ few →
      FirstDefect file (.truncated ⟨(f.bytes ++ sizedRun entries).length + 4, 4, file.length⟩)
  | strings (f : Front) (entries : List RawEntry) (signature declared : UInt32)
      {bytes : List UInt8} {available : Nat} :
      declared ≠ absent → BadTable declared.toNat bytes available →
      file = f.bytes ++ sizedRun entries ++ bigEndian 4 signature.toNat ++
        bigEndian 4 declared.toNat ++ bytes →
      FirstDefect file (.tableSize .string declared available)
  | name (l : Layout) (before : List Record) (r : Record) (after : List Record) :
      file = l.bytes → l.records = before ++ r :: after →
      (∀ p ∈ before, l.Admits file.length p) → (∀ e, ¬ l.Names r.nameOffset e) →
      FirstDefect file (.unresolvedName before.length r.nameOffset)
  | body (l : Layout) (before : List Record) (r : Record) (after : List Record) (e : RawEntry)
      (name : String) :
      file = l.bytes → l.records = before ++ r :: after →
      (∀ p ∈ before, l.Admits file.length p) → l.Names r.nameOffset e →
      name.toList = e.characters → file.length ≤ r.body.toNat →
      FirstDefect file (.outside name .body r.body file.length)
  | condition (l : Layout) (before : List Record) (r : Record) (after : List Record)
      (e : RawEntry) (name : String) :
      file = l.bytes → l.records = before ++ r :: after →
      (∀ p ∈ before, l.Admits file.length p) → l.Names r.nameOffset e →
      name.toList = e.characters → r.body.toNat < file.length →
      file.length ≤ r.condition.toNat →
      FirstDefect file (.outside name .condition r.condition file.length)

/-! Every sequence of bytes can be read as parts, up to the place of its first defect. -/

theorem exists_word_or_few (bytes : List UInt8) :
    (∃ (n : UInt32) (rest : List UInt8), bytes = bigEndian 4 n.toNat ++ rest) ∨
      bytes.length < 4 := by
  by_cases h : 4 ≤ bytes.length
  · obtain ⟨n, hn⟩ := exists_word (List.length_take_of_le h)
    exact .inl ⟨n, bytes.drop 4, by rw [← hn, List.take_append_drop]⟩
  · exact .inr (by omega)

theorem exists_records (count : Nat) (bytes : List UInt8) :
    ∃ (records : List Record) (more : List UInt8),
      bytes = records.flatMap Record.bytes ++ more ∧
      (records.length = count ∨ records.length < count ∧ more.length < recordSize) := by
  induction count generalizing bytes with
  | zero => exact ⟨[], bytes, rfl, .inl rfl⟩
  | succ count ih =>
    by_cases h : recordSize ≤ bytes.length
    · obtain ⟨r, hr⟩ := Record.exists_eq_bytes (List.length_take_of_le h)
      obtain ⟨records, more, hbytes, hcount⟩ := ih (bytes.drop recordSize)
      refine ⟨r :: records, more, ?_, ?_⟩
      · rw [List.flatMap_cons, List.append_assoc, ← hbytes, ← hr, List.take_append_drop]
      · rw [List.length_cons]
        omega
    · exact ⟨[], bytes, rfl, .inr ⟨Nat.zero_lt_succ _, by omega⟩⟩

theorem exists_run (bytes : List UInt8) :
    (∃ entries, bytes = run entries) ∨
      ∃ entries stub available, Stub stub available ∧ bytes = run entries ++ stub := by
  match bytes with
  | [] => exact .inl ⟨[], rfl⟩
  | [byte] => exact .inr ⟨[], [byte], 1, .length byte, rfl⟩
  | high :: low :: more =>
    have hlength : bigEndian 2 (ofBigEndian [high, low]) = [high, low] :=
      bigEndian_ofBigEndian [high, low]
    have hsize : ofBigEndian [high, low] < UInt16.size := by
      have := high.toNat_lt
      have := low.toNat_lt
      simp only [ofBigEndian, List.foldl_cons, List.foldl_nil, UInt16.size]
      omega
    by_cases h : ofBigEndian [high, low] ≤ more.length
    · let e : RawEntry := ⟨more.take (ofBigEndian [high, low]), by
        rwa [List.length_take_of_le h]⟩
      have hbytes : high :: low :: more = e.bytes ++ more.drop (ofBigEndian [high, low]) := by
        simp [e, RawEntry.bytes, List.length_take_of_le h, hlength]
      rcases exists_run (more.drop (ofBigEndian [high, low])) with
        ⟨entries, hrun⟩ | ⟨entries, stub, available, hstub, hrun⟩
      · exact .inl ⟨e :: entries, by rw [hbytes, hrun, run_cons]⟩
      · exact .inr ⟨e :: entries, stub, available, hstub, by
          rw [hbytes, hrun, run_cons, List.append_assoc]⟩
    · refine .inr ⟨[], _, _, .text (ofBigEndian [high, low]) more hsize (by omega), ?_⟩
      rw [hlength]
      rfl
termination_by bytes.length
decreasing_by
  simp only [List.length_drop, List.length_cons]
  omega

theorem exists_table (declared : Nat) (bytes : List UInt8) :
    (∃ entries rest, bytes = run entries ++ rest ∧ (run entries).length = declared) ∨
      ∃ available, BadTable declared bytes available := by
  by_cases h : declared ≤ bytes.length
  · have hlength : (bytes.take declared).length = declared := List.length_take_of_le h
    have hsplit : bytes = bytes.take declared ++ bytes.drop declared :=
      (List.take_append_drop ..).symm
    rcases exists_run (bytes.take declared) with
      ⟨entries, hrun⟩ | ⟨entries, stub, available, hstub, hrun⟩
    · exact .inl ⟨entries, bytes.drop declared, by rw [← hrun, ← hsplit], by rw [← hrun, hlength]⟩
    · refine .inr ⟨available, ?_⟩
      rw [hsplit, hrun]
      exact .stub entries _ hstub (by rw [← hrun, hlength])
  · exact .inr ⟨bytes.length, .short bytes (by omega)⟩

theorem all_or_first {α : Type} (p : α → Prop) (list : List α) :
    (∀ a ∈ list, p a) ∨
      ∃ before a after, list = before ++ a :: after ∧ (∀ b ∈ before, p b) ∧ ¬ p a := by
  induction list with
  | nil => exact .inl (by simp)
  | cons a list ih =>
    by_cases h : p a
    · rcases ih with hall | ⟨before, b, after, rfl, hbefore, hb⟩
      · exact .inl (List.forall_mem_cons.mpr ⟨h, hall⟩)
      · exact .inr ⟨a :: before, b, after, rfl, List.forall_mem_cons.mpr ⟨h, hbefore⟩, hb⟩
    · exact .inr ⟨[], a, list, rfl, by simp, h⟩

theorem Layout.sound_or_defect (l : Layout) :
    l.Sound l.bytes.length ∨ ∃ e, FirstDefect l.bytes e := by
  rcases all_or_first (l.Admits l.bytes.length) l.records with
    hall | ⟨before, r, after, hrecords, hbefore, hr⟩
  · exact .inl hall
  · refine .inr ?_
    by_cases hname : ∃ e, l.Names r.nameOffset e
    · obtain ⟨e, he⟩ := hname
      have hname := @String.toList_ofList e.characters
      by_cases hbody : r.body.toNat < l.bytes.length
      · have hcondition : ¬ r.condition.toNat < l.bytes.length :=
          fun h => hr ⟨⟨e, he⟩, hbody, h⟩
        exact ⟨_, .condition l before r after e _ rfl hrecords hbefore he hname hbody (by omega)⟩
      · exact ⟨_, .body l before r after e _ rfl hrecords hbefore he hname (by omega)⟩
    · exact ⟨_, .name l before r after rfl hrecords hbefore (not_exists.mp hname)⟩

theorem sizedRun_eq {entries : List RawEntry} {declared : UInt32}
    (h : (run entries).length = declared.toNat) :
    sizedRun entries = bigEndian 4 declared.toNat ++ run entries := by
  rw [sizedRun, h]

theorem exists_front (file : List UInt8) :
    (∃ (f : Front) (rest : List UInt8), file = f.bytes ++ rest) ∨ ∃ e, FirstDefect file e := by
  by_cases hheader : headerSize ≤ file.length
  · have hlength : (file.take headerSize).length = headerSize := List.length_take_of_le hheader
    have hsplit : file = file.take headerSize ++ file.drop headerSize :=
      (List.take_append_drop ..).symm
    rcases exists_word_or_few (file.drop headerSize) with ⟨count, rest, hcount⟩ | hfew
    · obtain ⟨records, more, hrest, hall | ⟨hless, hmore⟩⟩ := exists_records count.toNat rest
      · refine .inl ⟨⟨file.take headerSize, hlength, records⟩, more, ?_⟩
        rw [Front.bytes, hall]
        simp only [List.append_assoc]
        rw [← hrest, ← hcount]
        exact hsplit
      · refine .inr ⟨_, .record (file.take headerSize) count records more hlength hless hmore ?_⟩
        simp only [List.append_assoc]
        rw [← hrest, ← hcount]
        exact hsplit
    · exact .inr ⟨_, .count _ _ hlength hfew hsplit⟩
  · exact .inr ⟨_, .header (by omega)⟩

theorem layout_or_defect (file : List UInt8) :
    (∃ l : Layout, l.bytes = file ∧ l.Sound file.length) ∨ ∃ e, FirstDefect file e := by
  -- Part by part: where one is missing, its place is the first defect.
  rcases exists_front file with ⟨f, rest, rfl⟩ | defect
  swap
  · exact .inr defect
  rcases exists_word_or_few rest with ⟨declared, rest, rfl⟩ | few
  swap
  · exact .inr ⟨_, .identifierSize f rest few rfl⟩
  rcases exists_table declared.toNat rest with ⟨identifiers, rest, rfl, hsize⟩ | ⟨available, bad⟩
  swap
  · exact .inr ⟨_, .identifiers f declared bad (by rw [List.append_assoc])⟩
  rw [← List.append_assoc (bigEndian _ _), ← sizedRun_eq hsize, ← List.append_assoc]
  rcases exists_word_or_few rest with ⟨signature, rest, rfl⟩ | few
  swap
  · exact .inr ⟨_, .signature f identifiers rest few rfl⟩
  rw [← List.append_assoc]
  rcases exists_word_or_few rest with ⟨declared, rest, rfl⟩ | few
  swap
  · exact .inr ⟨_, .stringSize f identifiers signature rest few rfl⟩
  by_cases hmarker : declared = absent
  · let l : Layout := ⟨f, identifiers, signature, none, rest⟩
    have hbytes : l.bytes = f.bytes ++ sizedRun identifiers ++ bigEndian 4 signature.toNat ++
        (bigEndian 4 declared.toNat ++ rest) := by
      simp [l, Layout.bytes, Layout.stringBytes, hmarker]
    rw [← hbytes]
    rcases l.sound_or_defect with sound | defect
    · exact .inl ⟨l, rfl, sound⟩
    · exact .inr defect
  · rcases exists_table declared.toNat rest with ⟨strings, rest, rfl, hsize⟩ | ⟨available, bad⟩
    swap
    · exact .inr ⟨_, .strings f identifiers signature declared hmarker bad
        (by rw [List.append_assoc _ (bigEndian 4 declared.toNat)])⟩
    let l : Layout := ⟨f, identifiers, signature, some strings, rest⟩
    have hbytes : l.bytes = f.bytes ++ sizedRun identifiers ++ bigEndian 4 signature.toNat ++
        (bigEndian 4 declared.toNat ++ (run strings ++ rest)) := by
      simp [l, Layout.bytes, Layout.stringBytes, sizedRun_eq hsize]
    rw [← hbytes]
    rcases l.sound_or_defect with sound | defect
    · exact .inl ⟨l, rfl, sound⟩
    · exact .inr defect

end ScriptMachine.Container
