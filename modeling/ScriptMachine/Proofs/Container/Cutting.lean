import Mathlib.Data.List.Forall2
import ScriptMachine.Proofs.Container.Acceptance

/-!
# Files that are cut short or extended

The tables of a file are read from its front, each by a reader that uses up a piece of
what is ahead. Whatever follows the piece plays no part, and a cut within it is noticed
by the reader itself. Readers in sequence inherit both, so the tables of a file have an
end: a cut before it is refused for want of bytes, and a cut behind it, as any extension,
has the same tables. Only the offsets of the procedures are then held against the size.
-/

namespace ScriptMachine

def DecodeError.IsCut : DecodeError → Prop
  | .truncated _ | .tableSize .. => True
  | .unresolvedName .. | .outside .. => False

namespace Procedure

def offset (p : Procedure) : EntryPoint → UInt32
  | .body => p.body
  | .condition => p.condition

def FitsIn (p : Procedure) (size : Nat) : Prop := ∀ point, (p.offset point).toNat < size

theorem fitsIn_iff {p : Procedure} {size : Nat} :
    p.FitsIn size ↔ p.body.toNat < size ∧ p.condition.toNat < size := by
  constructor
  · exact fun h => ⟨h .body, h .condition⟩
  · intro h point
    cases point with
    | body => exact h.1
    | condition => exact h.2

end Procedure

namespace Container

open RawEntry

/-! Readers of a piece. -/

structure Consumes {α : Type} (x : Decoding α) (behind used : List UInt8) (a : α) : Prop where
  whole : ∀ more, x (.between behind (used ++ more)) = .ok (a, .between (behind ++ used) more)
  cut : ∀ n < used.length, ∃ e, x (.between behind (used.take n)) = .error e ∧ e.IsCut

def Piecewise {α : Type} (x : Decoding α) (behind : List UInt8) : Prop :=
  ∀ ahead a r, x (.between behind ahead) = .ok (a, r) →
    ∃ used more, ahead = used ++ more ∧ Consumes x behind used a

section

variable {α β : Type} {x : Decoding α} {f : α → Decoding β} {behind : List UInt8}

theorem Consumes.pure (a : α) (behind : List UInt8) :
    Consumes (Pure.pure a) behind [] a where
  whole more := by
    rw [List.append_nil]
    rfl
  cut n hn := absurd hn (Nat.not_lt_zero n)

/-- A cut lies within the first piece, or behind it within the second. -/
theorem Consumes.bind {used used' : List UInt8} {a : α} {b : β} (hx : Consumes x behind used a)
    (hf : Consumes (f a) (behind ++ used) used' b) :
    Consumes (x >>= f) behind (used ++ used') b where
  whole more := by
    rw [List.append_assoc, bind_of_ok (hx.whole _), hf.whole, List.append_assoc]
  cut n hn := by
    by_cases first : n < used.length
    · obtain ⟨e, he, hcut⟩ := hx.cut n first
      refine ⟨e, ?_, hcut⟩
      rw [List.take_append_of_le_length (Nat.le_of_lt first), bind_of_error he]
    · rw [List.length_append] at hn
      obtain ⟨e, he, hcut⟩ := hf.cut (n - used.length) (by omega)
      refine ⟨e, ?_, hcut⟩
      rw [List.take_append, List.take_of_length_le (by omega), bind_of_ok (hx.whole _), he]

theorem Piecewise.pure (a : α) (behind : List UInt8) : Piecewise (Pure.pure a) behind := by
  intro ahead b r h
  cases h
  exact ⟨[], ahead, rfl, .pure a behind⟩

theorem Piecewise.bind (hx : Piecewise x behind)
    (hf : ∀ a behind, Piecewise (f a) behind) : Piecewise (x >>= f) behind := by
  intro ahead b r h
  cases first : x (.between behind ahead) with
  | error e =>
    rw [bind_of_error first] at h
    contradiction
  | ok p =>
    obtain ⟨used, more, rfl, consumes⟩ := hx ahead p.1 p.2 first
    rw [bind_of_ok (consumes.whole more)] at h
    obtain ⟨used', more', rfl, consumes'⟩ := hf p.1 _ more b r h
    exact ⟨used ++ used', more', by rw [List.append_assoc], consumes.bind consumes'⟩

end

/-! The readers of a file. -/

theorem piecewise_uint32 (behind : List UInt8) : Piecewise (read Reader.uint32) behind := by
  intro ahead a r h
  rcases exists_word_or_few ahead with ⟨n, more, rfl⟩ | few
  · rw [read_uint32] at h
    cases h
    refine ⟨_, more, rfl, fun more => read_uint32 behind more _, ?_⟩
    intro cut hcut
    refine ⟨_, read_uint32_of_lt behind _ ?_, trivial⟩
    rw [length_bigEndian] at hcut
    rw [List.length_take]
    omega
  · rw [read_uint32_of_lt behind ahead few] at h
    contradiction

theorem piecewise_take (count : Nat) (behind : List UInt8) :
    Piecewise (read (Reader.take count)) behind := by
  intro ahead a r h
  by_cases fits : count ≤ ahead.length
  · have hlength : (ahead.take count).length = count := List.length_take_of_le fits
    rw [← List.take_append_drop count ahead, read_take behind _ _ hlength] at h
    cases h
    refine ⟨ahead.take count, ahead.drop count, (List.take_append_drop ..).symm,
      fun more => read_take behind more _ hlength, ?_⟩
    intro cut hcut
    refine ⟨_, read_take_of_lt behind _ ?_, trivial⟩
    rw [List.length_take]
    omega
  · rw [read_take_of_lt behind ahead (by omega)] at h
    contradiction

theorem piecewise_records (count : Nat) (behind : List UInt8) :
    Piecewise (records count) behind := by
  induction count generalizing behind with
  | zero => exact .pure [] behind
  | succ count ih =>
    exact (piecewise_take recordSize behind).bind fun bytes behind =>
      (ih behind).bind fun rest => .pure (Record.ofBytes bytes :: rest)

/-- A table is cut wherever fewer bytes than its size are ahead, so the entries need no
cuts of their own. -/
theorem piecewise_table (name : TableName) (size : UInt32) (behind : List UInt8) :
    Piecewise (table name size) behind := by
  intro ahead list r h
  by_cases fits : size.toNat ≤ ahead.length
  · have hlength : (ahead.take size.toNat).length = size.toNat := List.length_take_of_le fits
    have hwhole (more : List UInt8) := table_of_le behind more name _ hlength
    rw [← List.take_append_drop size.toNat ahead, hwhole] at h
    cases hentries : entries firstOffset (ahead.take size.toNat) with
    | error available =>
      rw [hentries] at h
      contradiction
    | ok list' =>
      simp only [hentries] at h hwhole
      cases h
      refine ⟨ahead.take size.toNat, ahead.drop size.toNat, (List.take_append_drop ..).symm,
        hwhole, ?_⟩
      intro cut hcut
      refine ⟨_, table_of_lt behind _ name ?_, trivial⟩
      rw [List.length_take]
      omega
  · rw [table_of_lt behind ahead name (by omega)] at h
    contradiction

theorem piecewise_header : Piecewise (read (Reader.seek headerSize)) [] := by
  intro ahead a r h
  by_cases fits : headerSize ≤ ahead.length
  · have hlength : (ahead.take headerSize).length = headerSize := List.length_take_of_le fits
    refine ⟨ahead.take headerSize, ahead.drop headerSize, (List.take_append_drop ..).symm, ?_, ?_⟩
    · intro more
      rw [read, Reader.seek_between _ (by rw [List.length_append]; omega),
        List.take_left' hlength, List.drop_left' hlength]
      rfl
    · intro cut hcut
      rw [read, Reader.seek_between_of_lt _ (by rw [List.length_take]; omega)]
      exact ⟨_, rfl, trivial⟩
  · rw [read, Reader.seek_between_of_lt _ (by omega)] at h
    contradiction

theorem piecewise_head : Piecewise head [] :=
  piecewise_header.bind fun _ behind =>
    (piecewise_uint32 behind).bind fun count behind =>
      (piecewise_records count.toNat behind).bind fun records behind =>
        (piecewise_uint32 behind).bind fun size behind =>
          (piecewise_table .identifier size behind).bind fun identifiers behind =>
            (piecewise_uint32 behind).bind fun signature =>
              .pure (Head.mk records identifiers signature)

theorem piecewise_stringTable (behind : List UInt8) : Piecewise stringTable behind := by
  refine (piecewise_uint32 behind).bind fun size behind => ?_
  split
  · exact .pure [] behind
  · exact piecewise_table .string size behind

def tables : Decoding (Head × List TableEntry) := do
  let head ← head
  return (head, ← stringTable)

theorem piecewise_tables : Piecewise tables [] :=
  piecewise_head.bind fun head behind =>
    (piecewise_stringTable behind).bind fun strings => .pure (head, strings)

/-- The offset just past the string table, or past the marker in its place. -/
def tablesEnd? (file : Array UInt8) : Option Nat :=
  match tables (.ofBytes file) with
  | .ok (_, r) => some r.position
  | .error _ => none

/-! Procedures held against another size. -/

section

variable {identifiers : List TableEntry} {size index : Nat}

theorem resolve_resized {r : Record} {p : Procedure}
    (h : resolve identifiers size index r = .ok p) (n : Nat) :
    p.FitsIn size ∧
      (p.FitsIn n ∧ resolve identifiers n index r = .ok p ∨
        ∃ point, n ≤ (p.offset point).toNat ∧
          resolve identifiers n index r = .error (.outside p.name point (p.offset point) n)) := by
  simp only [resolve] at h ⊢
  cases hname : entryText? identifiers r.nameOffset with
  | none => simp [hname] at h
  | some name =>
    simp only [hname] at h ⊢
    split at h
    · contradiction
    rename_i hbody
    split at h
    · contradiction
    rename_i hcondition
    cases h
    refine ⟨Procedure.fitsIn_iff.mpr ⟨Nat.lt_of_not_le hbody, Nat.lt_of_not_le hcondition⟩, ?_⟩
    by_cases hbody : n ≤ r.body.toNat
    · exact .inr ⟨.body, hbody, if_pos hbody⟩
    rw [if_neg hbody]
    by_cases hcondition : n ≤ r.condition.toNat
    · exact .inr ⟨.condition, hcondition, if_pos hcondition⟩
    rw [if_neg hcondition]
    exact .inl ⟨Procedure.fitsIn_iff.mpr
      ⟨Nat.lt_of_not_le hbody, Nat.lt_of_not_le hcondition⟩, rfl⟩

theorem resolveAll_cons_ok {r : Record} {rs : List Record} {ps : List Procedure}
    (h : resolveAll identifiers size index (r :: rs) = .ok ps) :
    ∃ p rest, ps = p :: rest ∧ resolve identifiers size index r = .ok p ∧
      resolveAll identifiers size (index + 1) rs = .ok rest := by
  rw [resolveAll] at h
  cases hp : resolve identifiers size index r with
  | error e => simp [hp, bind, Except.bind] at h
  | ok p =>
    cases hrest : resolveAll identifiers size (index + 1) rs with
    | error e => simp [hp, hrest, bind, Except.bind] at h
    | ok rest =>
      simp only [hp, hrest, bind, Except.bind] at h
      cases h
      exact ⟨p, rest, rfl, rfl, rfl⟩

theorem resolveAll_resized {rs : List Record} {ps : List Procedure}
    (h : resolveAll identifiers size index rs = .ok ps) (n : Nat) :
    (∀ p ∈ ps, p.FitsIn size) ∧
      ((∀ p ∈ ps, p.FitsIn n) ∧ resolveAll identifiers n index rs = .ok ps ∨
        ∃ p ∈ ps, ∃ point, n ≤ (p.offset point).toNat ∧ resolveAll identifiers n index rs =
          .error (.outside p.name point (p.offset point) n)) := by
  induction rs generalizing index ps with
  | nil =>
    cases h
    exact ⟨by simp, .inl ⟨by simp, rfl⟩⟩
  | cons r rs ih =>
    obtain ⟨p, rest, rfl, hp, hrest⟩ := resolveAll_cons_ok h
    obtain ⟨fits, first⟩ := resolve_resized hp n
    obtain ⟨restFit, others⟩ := ih hrest
    refine ⟨List.forall_mem_cons.mpr ⟨fits, restFit⟩, ?_⟩
    rw [resolveAll]
    rcases first with ⟨hfits, hok⟩ | ⟨point, hpoint, herror⟩
    · rw [hok]
      rcases others with ⟨hall, hoks⟩ | ⟨q, hq, point, hpoint, herror⟩
      · exact .inl ⟨List.forall_mem_cons.mpr ⟨hfits, hall⟩, by rw [hoks]; rfl⟩
      · exact .inr ⟨q, List.mem_cons_of_mem p hq, point, hpoint, by rw [herror]; rfl⟩
    · exact .inr ⟨p, List.mem_cons_self, point, hpoint, by rw [herror]; rfl⟩

end

/-! Whole files. -/

theorem decode_eq_tables (name : String) (file : Array UInt8) :
    decode name file = (tables (.between [] file.toList)).bind fun (t, _) =>
      (resolveAll t.1.identifiers file.size 0 t.1.records).map
        fun ps => ⟨name, file, ps.toArray, t.1.identifiers, t.2⟩ := by
  cases hhead : head (.between [] file.toList) with
  | error e =>
    rw [decode_of_head hhead, tables, bind_of_error hhead]
    rfl
  | ok p =>
    rw [tables, bind_of_ok hhead]
    cases hstrings : stringTable p.2 with
    | error e =>
      rw [decode_of_stringTable hhead hstrings, bind_of_error hstrings]
      rfl
    | ok q =>
      rw [decode_of_tables hhead hstrings, bind_of_ok hstrings]
      rfl

def FitsIn (c : Container) (size : Nat) : Prop := ∀ p ∈ c.procedures, p.FitsIn size

structure Start (name : String) (c : Container) (used : List UInt8) : Prop where
  tablesEnd? : ∀ {file : Array UInt8} {more}, file.toList = used ++ more →
    tablesEnd? file = some used.length
  cut : ∀ {file : Array UInt8}, ∀ n < used.length, file.toList = used.take n →
    ∃ e, decode name file = .error e ∧ e.IsCut
  resized : ∀ {file : Array UInt8} {more}, file.toList = used ++ more →
    c.FitsIn file.size ∧ decode name file = .ok { c with code := file } ∨
      ∃ p ∈ c.procedures, ∃ point, file.size ≤ (p.offset point).toNat ∧
        decode name file = .error (.outside p.name point (p.offset point) file.size)

theorem Consumes.start {t : Head × List TableEntry} {used : List UInt8} {size : Nat}
    {ps : List Procedure} (h : Consumes tables [] used t)
    (hall : resolveAll t.1.identifiers size 0 t.1.records = .ok ps) (name : String)
    (code : Array UInt8) : Start name ⟨name, code, ps.toArray, t.1.identifiers, t.2⟩ used where
  tablesEnd? hfile := by
    rw [Container.tablesEnd?, Reader.ofBytes_eq_between, hfile, h.whole]
    rfl
  cut n hn hfile := by
    obtain ⟨e, he, hcut⟩ := h.cut n hn
    refine ⟨e, ?_, hcut⟩
    rw [decode_eq_tables, hfile, he]
    rfl
  resized {file more} hfile := by
    have hdecode : decode name file =
        (resolveAll t.1.identifiers file.size 0 t.1.records).map
          fun ps => ⟨name, file, ps.toArray, t.1.identifiers, t.2⟩ := by
      rw [decode_eq_tables, hfile, h.whole]
      rfl
    rcases (resolveAll_resized hall file.size).2 with ⟨fits, hok⟩ | ⟨p, hp, point, hpoint, herror⟩
    · exact .inl ⟨fun p hp => fits p (List.mem_toArray.mp hp), by rw [hdecode, hok]; rfl⟩
    · exact .inr ⟨p, List.mem_toArray.mpr hp, point, hpoint, by rw [hdecode, herror]; rfl⟩

theorem exists_start {name : String} {file : Array UInt8} {c : Container}
    (h : decode name file = .ok c) :
    c.FitsIn file.size ∧ ∃ used more, file.toList = used ++ more ∧ Start name c used := by
  rw [decode_eq_tables] at h
  cases htables : tables (.between [] file.toList) with
  | error e =>
    rw [htables] at h
    contradiction
  | ok p =>
    obtain ⟨t, r⟩ := p
    rw [htables] at h
    simp only [Except.bind] at h
    cases hall : resolveAll t.1.identifiers file.size 0 t.1.records with
    | error e =>
      rw [hall] at h
      contradiction
    | ok ps =>
      rw [hall] at h
      cases h
      obtain ⟨used, more, hfile, consumes⟩ := piecewise_tables _ t r htables
      have fits := (resolveAll_resized hall file.size).1
      exact ⟨fun p hp => fits p (List.mem_toArray.mp hp), used, more, hfile,
        consumes.start hall name file⟩

theorem tablesEnd?_layout {l : Layout} {file : Array UInt8} (small : file.size < UInt32.size)
    (h : l.bytes = file.toList) : tablesEnd? file = some (file.size - l.rest.length) := by
  obtain ⟨r, behind, hhead, hstrings, hbytes⟩ := head_layout small h
  have hsize : file.size = behind.length + l.rest.length := by
    rw [← Array.length_toList, ← h, hbytes, List.length_append]
  rw [tablesEnd?, Reader.ofBytes_eq_between, tables, bind_of_ok hhead, bind_of_ok hstrings, hsize,
    Nat.add_sub_cancel]
  rfl

/-- What becomes of a file that is cut short or extended. Cut before the end of its tables, it
is refused for want of bytes. Cut behind it, it is decoded to the same procedures and tables
if it still holds every place where a procedure is entered, and refused for such a place if
not. Extended, it is always decoded to the same procedures and tables. -/
theorem decode_cut_or_extended {name : String} {file : Array UInt8} {c : Container}
    (h : decode name file = .ok c) :
    ∃ tablesEnd, tablesEnd? file = some tablesEnd ∧ tablesEnd ≤ file.size ∧
      (∀ n < tablesEnd, ∃ e, decode name (file.take n) = .error e ∧ e.IsCut) ∧
      (∀ n, tablesEnd ≤ n →
        (c.FitsIn n → decode name (file.take n) = .ok { c with code := file.take n }) ∧
        (¬ c.FitsIn n → ∃ p ∈ c.procedures, ∃ point, n ≤ (p.offset point).toNat ∧
          decode name (file.take n) = .error (.outside p.name point (p.offset point) n))) ∧
      ∀ more, decode name (file ++ more) = .ok { c with code := file ++ more } := by
  obtain ⟨fits, used, rest, hfile, start⟩ := exists_start h
  have hsize : file.size = used.length + rest.length := by
    rw [← Array.length_toList, hfile, List.length_append]
  refine ⟨used.length, start.tablesEnd? hfile, by omega, ?_, ?_, ?_⟩
  · intro n hn
    apply start.cut n hn
    simp [hfile, List.take_append_of_le_length (Nat.le_of_lt hn)]
  · intro n hn
    have htake : (file.take n).toList = used ++ rest.take (n - used.length) := by
      simp [hfile, List.take_append, List.take_of_length_le hn]
    have hn' : (file.take n).size = min n file.size := by simp
    rcases start.resized htake with ⟨hfits, hok⟩ | ⟨p, hp, point, hpoint, herror⟩
    · refine ⟨fun _ => hok, fun unfit => absurd (fun p hp point => ?_) unfit⟩
      have := hfits p hp point
      omega
    · have inside := fits p hp point
      have hcut : (file.take n).size = n := by omega
      rw [hcut] at hpoint herror
      exact ⟨fun all => absurd (all p hp point) (Nat.not_lt.mpr hpoint),
        fun _ => ⟨p, hp, point, hpoint, herror⟩⟩
  · intro more
    have hmore : (file ++ more).toList = used ++ (rest ++ more.toList) := by
      rw [Array.toList_append, hfile, List.append_assoc]
    rcases start.resized hmore with ⟨-, hok⟩ | ⟨p, hp, point, hpoint, -⟩
    · exact hok
    · have inside := fits p hp point
      rw [Array.size_append] at hpoint
      omega

theorem door_cut_or_extended :
    ∃ c, decode "door" doorLayout.bytes.toArray = .ok c ∧
      tablesEnd? doorLayout.bytes.toArray = some 91 ∧
      (∃ e, decode "door" (doorLayout.bytes.toArray.take 90) = .error e ∧ e.IsCut) ∧
      decode "door" (doorLayout.bytes.toArray.take 92) =
        .ok { c with code := doorLayout.bytes.toArray.take 92 } ∧
      decode "door" (doorLayout.bytes.toArray ++ #[0x80]) =
        .ok { c with code := doorLayout.bytes.toArray ++ #[0x80] } := by
  have small : doorLayout.bytes.toArray.size < UInt32.size := by decide
  have sound : doorLayout.Sound doorLayout.bytes.toArray.size := by
    intro r hr
    obtain rfl := List.mem_singleton.mp hr
    exact ⟨⟨_, List.mem_singleton.mpr rfl⟩, by decide, by decide⟩
  obtain ⟨c, hc, -, -, decodes⟩ := decode_sound "door" small rfl sound
  have fits : c.FitsIn 92 := by
    obtain ⟨door, others, reads, none, hprocedures⟩ :=
      List.forall₂_cons_left_iff.mp decodes.procedures
    obtain rfl := List.forall₂_nil_left_iff.mp none
    intro p hp
    obtain rfl : p = door := by simpa [hprocedures] using Array.mem_toList_iff.mpr hp
    exact Procedure.fitsIn_iff.mpr ⟨by rw [reads.body]; decide, by rw [reads.condition]; decide⟩
  obtain ⟨tablesEnd, hend, -, before, behind, extended⟩ := decode_cut_or_extended hc
  have hlayout := tablesEnd?_layout small (l := doorLayout) rfl
  obtain rfl : tablesEnd = 91 := Option.some.inj (hend.symm.trans hlayout)
  exact ⟨c, hc, hend, before 90 (by decide), (behind 92 (by decide)).1 fits,
    extended #[0x80]⟩

end Container

end ScriptMachine
