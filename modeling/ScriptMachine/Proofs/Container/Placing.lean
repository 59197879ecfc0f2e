import ScriptMachine.Proofs.Code.Standing
import ScriptMachine.Proofs.Container.Drafting
import ScriptMachine.Proofs.Container.Resolution

/-!
# The file of a draft

Without fixed places the blocks follow the tables one after the other, so that writing
them only appends. The file of a tidy draft is then a layout, and each of its records says
where the blocks of its procedure stand.
-/

namespace ScriptMachine

open Container Container.RawEntry Pool

namespace ProcedureDraft

def conditionCode (p : ProcedureDraft) (base : Nat) : List UInt8 :=
  match p.condition with
  | some block => block.assemble (.ofNat base)
  | none => []

def code (p : ProcedureDraft) (base : Nat) : List UInt8 :=
  p.body.assemble (.ofNat base) ++ p.conditionCode (base + p.body.size)

end ProcedureDraft

namespace Draft

def laid : Nat → List ProcedureDraft → List UInt8
  | _, [] => []
  | base, p :: rest => p.code base ++ laid (base + (p.code base).length) rest

def placementAt (p : ProcedureDraft) (base : Nat) : Placement :=
  ⟨base, if p.condition.isSome then base + p.body.size else 0⟩

theorem place_cons {p : ProcedureDraft} (h : p.place = none) (base : Nat)
    (rest : List ProcedureDraft) :
    place base (p :: rest) = placementAt p base :: place (base + (p.code base).length) rest := by
  rw [place, h, placementAt, ProcedureDraft.code, ProcedureDraft.conditionCode,
    List.length_append, Block.length_assemble]
  cases p.condition with
  | none => rfl
  | some block => simp only [Block.length_assemble, Nat.add_assoc]; rfl

theorem length_place (base : Nat) (ps : List ProcedureDraft) :
    (place base ps).length = ps.length := by
  induction ps generalizing base with
  | nil => rfl
  | cons p rest ih => rw [place, List.length_cons, ih, List.length_cons]

/-! Writing the blocks. -/

theorem overlay_length (file code : List UInt8) :
    overlay file file.length code = file ++ code := by
  rw [overlay, List.take_left, List.drop_of_length_le (Nat.le_add_right ..), List.append_nil]

theorem writeBlocks_placementAt (file : List UInt8) (p : ProcedureDraft) :
    writeBlocks file p (placementAt p file.length) = file ++ p.code file.length := by
  rw [writeBlocks, placementAt, overlay_length, ProcedureDraft.code, ProcedureDraft.conditionCode]
  cases p.condition with
  | none => rw [List.append_nil]
  | some block =>
    have hend : file.length + p.body.size =
        (file ++ p.body.assemble (.ofNat file.length)).length := by
      rw [List.length_append, Block.length_assemble]
    simp only [Option.isSome_some, ↓reduceIte]
    rw [hend, overlay_length, List.append_assoc]

theorem foldl_writeBlocks (file : List UInt8) {ps : List ProcedureDraft}
    (unplaced : ∀ p ∈ ps, p.place = none) :
    (ps.zip (place file.length ps)).foldl (fun file (p, place) => writeBlocks file p place) file =
      file ++ laid file.length ps := by
  induction ps generalizing file with
  | nil => exact (List.append_nil file).symm
  | cons p rest ih =>
    obtain ⟨first, others⟩ := List.forall_mem_cons.mp unplaced
    rw [place_cons first, List.zip_cons_cons, List.foldl_cons, ← List.length_append]
    change List.foldl _ (writeBlocks file p (placementAt p file.length)) _ = _
    rw [writeBlocks_placementAt, ih (file ++ p.code file.length) others, laid, List.append_assoc,
      List.length_append]

/-! The front. -/

structure Tallied (d : Draft) : Prop where
  identifiers : d.identifiers.Tallied
  strings : d.strings.Tallied
  named : ∀ p ∈ d.procedures.toList, p.name ∈ d.identifiers.texts
  unplaced : ∀ p ∈ d.procedures.toList, p.place = none

theorem Tidy.tallied {d : Draft} (h : d.Tidy) : d.Tallied :=
  ⟨h.identifiers.tallied, h.strings.tallied, h.named, h.unplaced⟩

theorem length_sizedHeader (header : List UInt8) :
    (sizedHeader header).length = headerSize := by
  simp only [sizedHeader, List.length_append, List.length_flatten, List.map_replicate,
    length_bigEndian, List.sum_replicate_nat, List.length_replicate, List.length_take, headerSize]
  omega

theorem length_encodeRecord (d : Draft) (p : ProcedureDraft) (place : Placement) :
    (d.encodeRecord p place).length = recordSize := by
  simp [encodeRecord, length_bigEndian, recordSize]

theorem length_encodeRecords (d : Draft) (list : List (ProcedureDraft × Placement)) :
    (list.flatMap fun (p, place) => d.encodeRecord p place).length = recordSize * list.length := by
  induction list with
  | nil => rfl
  | cons first rest ih =>
    rw [List.flatMap_cons, List.length_append, ih, length_encodeRecord, List.length_cons,
      Nat.mul_succ, Nat.add_comm]

theorem length_encode {p : Pool} (h : p.Tallied) : p.encode.length = 4 + p.size := by
  rw [encode, List.length_append, length_bigEndian, h.size]
  rfl

theorem length_front {d : Draft} (h : d.Tallied) : d.front.length = d.tablesEnd := by
  have hplacements : (d.procedures.toList.zip d.placements).length = d.procedures.size := by
    rw [List.length_zip, placements, length_place, Nat.min_self, Array.length_toList]
  rw [front, tablesEnd]
  simp only [List.length_append, length_sizedHeader, length_bigEndian, length_encodeRecords,
    hplacements, length_encode h.identifiers]
  split
  · rw [length_bigEndian]
    omega
  · rw [length_encode h.strings]
    omega

theorem build_eq {d : Draft} (h : d.Tallied) :
    d.build = d.front ++ laid d.tablesEnd d.procedures.toList := by
  rw [build, placements, ← length_front h, foldl_writeBlocks d.front h.unplaced]

/-! The records. -/

def record (d : Draft) (p : ProcedureDraft) (place : Placement) : Record :=
  ⟨.ofNat ((d.identifiers.offset? p.name).getD 0), p.flags.bits, p.delay, .ofNat place.condition,
    .ofNat place.body, p.argumentCount⟩

def layout (d : Draft) : Layout where
  header := sizedHeader (d.header.getD d.defaultHeader)
  header_length := length_sizedHeader _
  records := (d.procedures.toList.zip d.placements).map fun (p, place) => d.record p place
  identifiers := d.identifiers.table
  signature := signature
  strings := if d.withoutStrings then none else some d.strings.table
  rest := laid d.tablesEnd d.procedures.toList

def layoutWith (d : Draft) (identifiers : List RawEntry) (strings : Option (List RawEntry)) :
    Layout :=
  { d.layout with identifiers, strings }

structure Encodes (d : Draft) (file : List UInt8) (p : ProcedureDraft) (r : Record) : Prop where
  name : (r.nameOffset.toNat, p.name) ∈ d.identifiers.entries.toList
  flags : r.flags = p.flags.bits
  delay : r.delay = p.delay
  argumentCount : r.argumentCount = p.argumentCount
  body : StandsAt file r.body.toNat (p.body.assemble r.body)
  condition : match p.condition with
    | some block => StandsAt file r.condition.toNat (block.assemble r.condition)
    | none => r.condition = 0

theorem encodeRecord_eq {d : Draft} {p : ProcedureDraft} {place : Placement}
    (name : (d.identifiers.offset? p.name).getD 0 < UInt32.size)
    (body : place.body < UInt32.size) (condition : place.condition < UInt32.size) :
    d.encodeRecord p place = (d.record p place).bytes := by
  rw [encodeRecord, record, Record.bytes]
  simp only [List.flatMap_cons, List.flatMap_nil, UInt32.toNat_ofNat_of_lt' name,
    UInt32.toNat_ofNat_of_lt' body, UInt32.toNat_ofNat_of_lt' condition]

section

variable {d : Draft} (h : d.Tallied) (small : d.build.length < UInt32.size)

include h small

theorem tablesEnd_lt : d.tablesEnd < UInt32.size := by
  rw [build_eq h, List.length_append, length_front h] at small
  omega

theorem name_lt {p : ProcedureDraft} (hp : p ∈ d.procedures.toList) :
    ∃ k < UInt32.size, d.identifiers.offset? p.name = some k ∧
      (k, p.name) ∈ d.identifiers.entries.toList := by
  obtain ⟨k, hoffset, hmem⟩ := exists_offset? (h.named p hp)
  refine ⟨k, ?_, hoffset, hmem⟩
  have inside := h.identifiers.offset_lt _ hmem
  have fits := tablesEnd_lt h small
  rw [tablesEnd, headerSize] at fits
  rw [firstOffset] at inside
  omega

theorem encodes_record {before after : List UInt8} {p : ProcedureDraft}
    (hp : p ∈ d.procedures.toList) (hfile : d.build = before ++ p.code before.length ++ after) :
    d.Encodes d.build p (d.record p (placementAt p before.length)) ∧
      d.encodeRecord p (placementAt p before.length) =
        (d.record p (placementAt p before.length)).bytes := by
  obtain ⟨k, hk, hoffset, hname⟩ := name_lt h small hp
  have hsize := congrArg List.length hfile
  rw [List.length_append, List.length_append, ProcedureDraft.code, List.length_append,
    Block.length_assemble] at hsize
  have hbase : before.length < UInt32.size := by omega
  have hcondition : before.length + p.body.size < UInt32.size := by omega
  refine ⟨⟨?_, rfl, rfl, rfl, ?_, ?_⟩, encodeRecord_eq ?_ hbase ?_⟩
  · rw [record, hoffset, Option.getD_some, UInt32.toNat_ofNat_of_lt' hk]
    exact hname
  · change StandsAt _ (UInt32.ofNat before.length).toNat _
    rw [UInt32.toNat_ofNat_of_lt' hbase]
    refine ⟨before, p.conditionCode (before.length + p.body.size) ++ after, ?_, rfl⟩
    rw [hfile, ProcedureDraft.code]
    simp only [List.append_assoc]
    rfl
  · cases hblock : p.condition with
    | none => simp [record, placementAt, hblock]
    | some block =>
      simp only [record, placementAt, hblock, Option.isSome_some, ↓reduceIte]
      rw [UInt32.toNat_ofNat_of_lt' hcondition]
      refine ⟨before ++ p.body.assemble (.ofNat before.length), after, ?_, ?_⟩
      · rw [hfile, ProcedureDraft.code, ProcedureDraft.conditionCode, hblock]
        simp only [List.append_assoc]
      · rw [List.length_append, Block.length_assemble]
  · rw [hoffset]
    exact hk
  · change (if p.condition.isSome then before.length + p.body.size else 0) < _
    split <;> omega

theorem forall₂_encodes {before : List UInt8} {ps : List ProcedureDraft}
    (hps : ∀ p ∈ ps, p ∈ d.procedures.toList)
    (hfile : d.build = before ++ laid before.length ps) :
    List.Forall₂ (d.Encodes d.build) ps
        ((ps.zip (place before.length ps)).map fun (p, place) => d.record p place) ∧
      ((ps.zip (place before.length ps)).flatMap fun (p, place) => d.encodeRecord p place) =
        ((ps.zip (place before.length ps)).map fun (p, place) => d.record p place).flatMap
          Record.bytes := by
  induction ps generalizing before with
  | nil => exact ⟨.nil, rfl⟩
  | cons p rest ih =>
    obtain ⟨first, others⟩ := List.forall_mem_cons.mp hps
    rw [laid, ← List.append_assoc, ← List.length_append] at hfile
    obtain ⟨encodes, hencode⟩ := encodes_record h small first hfile
    obtain ⟨all, bytes⟩ := ih others hfile
    rw [place_cons (h.unplaced p first), List.zip_cons_cons, ← List.length_append]
    refine ⟨.cons encodes all, ?_⟩
    rw [List.flatMap_cons, List.map_cons, List.flatMap_cons, bytes]
    exact congrArg (· ++ _) hencode

theorem encodes_tallied :
    List.Forall₂ (d.Encodes d.build) d.procedures.toList d.layout.records := by
  have hfile := build_eq h
  rw [← length_front h] at hfile
  have all := (forall₂_encodes h small (fun _ hp => hp) hfile).1
  rw [length_front h] at all
  exact all

theorem build_parts : d.build = d.layout.toFront.bytes ++ d.identifiers.encode ++
    bigEndian 4 signature.toNat ++
    (if d.withoutStrings then bigEndian 4 absent.toNat else d.strings.encode) ++
    laid d.tablesEnd d.procedures.toList := by
  have hfile := build_eq h
  rw [← length_front h] at hfile
  have hrecords := (forall₂_encodes h small (fun _ hp => hp) hfile).2
  rw [length_front h] at hrecords
  have hcount : d.layout.records.length = d.procedures.size := by
    rw [layout, List.length_map, List.length_zip, placements, length_place, Nat.min_self,
      Array.length_toList]
  rw [build_eq h, front, Front.bytes, hcount, placements, hrecords]
  rfl

theorem bytes_layoutWith {identifiers : List RawEntry} {strings : Option (List RawEntry)}
    (hids : run identifiers = d.identifiers.written)
    (hstrings : Layout.stringBytes strings =
      if d.withoutStrings then bigEndian 4 absent.toNat else d.strings.encode) :
    (d.layoutWith identifiers strings).bytes = d.build := by
  rw [build_parts h small, ← hstrings, h.identifiers.encode_eq hids]
  rfl

end

section

variable {d : Draft} (h : d.Tidy) (small : d.build.length < UInt32.size)

include h small

theorem encodes_layout : List.Forall₂ (d.Encodes d.build) d.procedures.toList d.layout.records :=
  encodes_tallied h.tallied small

theorem bytes_layout : d.layout.bytes = d.build := by
  refine bytes_layoutWith h.tallied small h.identifiers.run_table ?_
  rw [h.strings.tallied.encode_eq h.strings.run_table]
  cases d.withoutStrings <;> rfl

end

end Draft

end ScriptMachine
