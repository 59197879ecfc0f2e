import ScriptMachine.Proofs.Container.Validity

/-!
# Startup code of built files

Without startup code of its own a draft gets code that calls the start procedure by its index. The
file begins with it, and the procedure with that index is where the records say.
-/

namespace ScriptMachine

open Container CodeItem

theorem CodeItem.length_literal (op : Opcode) (operand : UInt32) :
    (literal op operand).length = 6 := by
  rw [literal, List.length_append, length_bigEndian, length_bigEndian]

namespace DraftStep

def isHeader : DraftStep → Bool
  | .header _ => true
  | _ => false

end DraftStep

namespace Draft

theorem header_extend {d : Draft} {steps : List DraftStep}
    (headless : ∀ s ∈ steps, s.isHeader = false) : (d.extend steps).header = d.header := by
  induction steps generalizing d with
  | nil => rfl
  | cons s rest ih =>
    obtain ⟨first, others⟩ := List.forall_mem_cons.mp headless
    change ((d.apply s).extend rest).header = d.header
    rw [ih others]
    cases s with
    | header bytes => contradiction
    | withoutStrings | string | identifier | procedure => rfl

/-! The startup code. -/

theorem defaultHeader_of_some {d : Draft} {index : Nat}
    (start : d.procedures.findIdx? (·.name = startName) = some index) :
    d.defaultHeader = literal .pushInt 0 ++ (literal .pushInt (Int32.ofNat index).toUInt32 ++
      (bigEndian 2 Opcode.call.code.toNat ++ bigEndian 2 Opcode.exitProg.code.toNat)) := by
  simp [defaultHeader, start, Block.op, Block.emit, Block.assemble, encode]
  rfl

theorem defaultHeader_of_none {d : Draft}
    (start : d.procedures.findIdx? (·.name = startName) = none) :
    d.defaultHeader = literal .pushInt 0 ++ bigEndian 2 Opcode.exitProg.code.toNat := by
  simp [defaultHeader, start, Block.op, Block.emit, Block.assemble, encode]
  rfl

theorem length_defaultHeader_le (d : Draft) : d.defaultHeader.length ≤ headerSize := by
  cases start : d.procedures.findIdx? (·.name = startName) with
  | some index =>
    simp [defaultHeader_of_some start, length_literal, length_bigEndian, headerSize]
  | none =>
    simp [defaultHeader_of_none start, length_literal, length_bigEndian, headerSize]

theorem standsAt_defaultHeader {d : Draft} (h : d.Tallied) (headless : d.header = none) :
    StandsAt d.build 0 d.defaultHeader := by
  have kept : d.defaultHeader.take headerSize = d.defaultHeader :=
    List.take_of_length_le d.length_defaultHeader_le
  rw [build_eq h, front, headless, Option.getD_none, sizedHeader, kept]
  simp only [List.append_assoc]
  exact ⟨[], _, rfl, rfl⟩

/-! The procedure it calls. -/

theorem start_of_split {d : Draft} {before after : List ProcedureDraft} {p : ProcedureDraft}
    (procedures : d.procedures.toList = before ++ p :: after) (start : p.name = startName)
    (first : ∀ q ∈ before, q.name ≠ startName) :
    d.procedures.findIdx? (·.name = startName) = some before.length := by
  have none : before.findIdx? (·.name = startName) = none := by
    simpa using first
  have array : d.procedures = (before ++ p :: after).toArray := Array.toList_inj.mp procedures
  rw [array, List.findIdx?_toArray]
  simp [List.findIdx?_append, none, List.findIdx?_cons, start]

theorem size_procedures_le {d : Draft} (h : d.Tallied) : d.procedures.size ≤ d.build.length := by
  rw [build_eq h, List.length_append, length_front h, tablesEnd, recordSize]
  omega

theorem le_body_of_mem_place {ps : List ProcedureDraft} (unplaced : ∀ p ∈ ps, p.place = none)
    (base : Nat) : ∀ start ∈ place base ps, base ≤ start.body := by
  induction ps generalizing base with
  | nil => exact fun _ h => absurd h List.not_mem_nil
  | cons p rest ih =>
    obtain ⟨first, others⟩ := List.forall_mem_cons.mp unplaced
    rw [place_cons first, List.forall_mem_cons]
    refine ⟨Nat.le_refl base, ?_⟩
    exact fun start hstart => Nat.le_trans (Nat.le_add_right ..) (ih others _ start hstart)

section

variable {d : Draft} (h : d.Tallied) (small : d.build.length < UInt32.size)

include h small

theorem body_pos {r : Record} (hr : r ∈ d.layout.records) : 0 < r.body.toNat := by
  have hsize : d.tablesEnd + (laid d.tablesEnd d.procedures.toList).length = d.build.length := by
    rw [build_eq h, List.length_append, length_front h]
  have hstart : (r.body, r.condition) ∈
      d.layout.records.map fun r => (r.body, r.condition) := List.mem_map_of_mem hr
  rw [map_starts_records] at hstart
  obtain ⟨start, hstart, heq⟩ := List.mem_map.mp hstart
  have above := le_body_of_mem_place h.unplaced d.tablesEnd start hstart
  have below := (starts_le h.unplaced hsize start hstart).1
  rw [← (Prod.mk.inj heq).1, UInt32.toNat_ofNat_of_lt' (Nat.lt_of_le_of_lt below small)]
  rw [tablesEnd, headerSize] at above
  omega

theorem procedure_of_decodes {name : String} {c : Container}
    (hc : decode name d.build.toArray = .ok c) {index : Nat} {p : ProcedureDraft}
    (hp : d.procedures.toList[index]? = some p) :
    ∃ q, c.procedures[index]? = some q ∧ (0 < q.body.toNat ∧ q.body.toNat < d.build.length) ∧
      StandsAt d.build q.body.toNat (p.body.assemble q.body) := by
  obtain ⟨l, hrecords, hbytes, sound⟩ := (valid_of_decodes h small hc).exists_layout h small
  have small' : d.build.toArray.size < UInt32.size := small
  obtain ⟨c', hc', -, -, decodes⟩ := decode_sound name small' hbytes sound
  obtain rfl : c' = c := Except.ok.inj (hc'.symm.trans hc)
  have encodes := encodes_tallied h small
  have reads := decodes.procedures
  rw [hrecords] at reads
  obtain ⟨hindex, rfl⟩ := List.getElem?_eq_some_iff.mp hp
  have hrecord : index < d.layout.records.length := encodes.length_eq ▸ hindex
  have hread : index < c'.procedures.toList.length := reads.length_eq ▸ hrecord
  have hr : d.layout.records[index] ∈ d.layout.records := List.getElem_mem hrecord
  have hbody : c'.procedures[index].body = d.layout.records[index].body :=
    (reads.get hrecord hread).body
  have admits : l.Admits d.build.length d.layout.records[index] := sound _ (by rwa [hrecords])
  refine ⟨_, Array.getElem?_eq_getElem hread, ?_, ?_⟩
  · rw [hbody]
    exact ⟨body_pos h small hr, admits.2.1⟩
  · rw [hbody]
    exact (encodes.get hindex hrecord).body

end

end Draft

end ScriptMachine
