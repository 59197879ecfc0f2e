import ScriptMachine.Proofs.Container.RoundTrip

/-!
# When a built file is valid

Drafts can be built that no decoder accepts. The length of a text has two bytes, and of a longer
text only the low-order part is written, so that the table is split in other places than it was
made of. And a block without code at the end of a file starts behind the last byte. Without fixed
places nothing else can go wrong.
-/

namespace ScriptMachine

open Container Container.RawEntry Pool

theorem Container.decodes_iff_sound (name : String) (file : Array UInt8)
    (small : file.size < UInt32.size) {l : Layout} (h : l.bytes = file.toList) :
    (∃ c, decode name file = .ok c) ↔ l.Sound file.size := by
  constructor
  · intro decodes
    obtain ⟨c, hc⟩ := decodes
    rcases l.sound_or_defect with sound | ⟨e, he⟩
    · rwa [h, Array.length_toList] at sound
    · rw [h] at he
      rw [decode_defect small he] at hc
      contradiction
  · intro sound
    obtain ⟨c, hc, -⟩ := decode_sound name small h sound
    exact ⟨c, hc⟩

theorem Pool.exists_entries {p : Pool} (h : p.Tallied) (more : List UInt8) :
    (∃ entries, run entries = p.written) ∨
      ∃ available, BadTable p.size (p.written ++ more) available := by
  rcases exists_table p.size (p.written ++ more) with ⟨entries, rest, hsplit, hlength⟩ | bad
  · rw [h.size] at hlength
    exact .inl ⟨entries, (List.append_inj_left hsplit hlength.symm).symm⟩
  · exact .inr bad

theorem Pool.encode_eq_written (p : Pool) : p.encode = bigEndian 4 p.size ++ p.written := rfl

def DraftStep.Unplaced : DraftStep → Prop
  | .procedure p => p.place = none
  | _ => True

theorem DraftStep.Plain.unplaced {s : DraftStep} (h : s.Plain) : s.Unplaced := by
  cases s with
  | procedure p => exact h.2
  | _ => trivial

theorem DraftStep.eq_of_procedure? {s : DraftStep} {p : ProcedureDraft}
    (h : s.procedure? = some p) : s = .procedure p := by
  cases s with
  | procedure q =>
    cases h
    rfl
  | _ => contradiction

namespace Draft

theorem tallied_apply {d : Draft} (h : ∀ kind, (d.pool kind).Tallied) (s : DraftStep)
    (kind : TableName) : ((d.apply s).pool kind).Tallied := by
  cases s with
  | header | withoutStrings =>
    cases kind with
    | identifier => exact h .identifier
    | string => exact h .string
  | string text =>
    cases kind with
    | identifier => exact h .identifier
    | string => exact (h .string).intern text
  | identifier name =>
    cases kind with
    | identifier => exact (h .identifier).intern name
    | string => exact h .string
  | procedure p =>
    cases kind with
    | identifier => exact (h .identifier).intern p.name
    | string => exact h .string

theorem tallied_extend {d : Draft} (h : ∀ kind, (d.pool kind).Tallied) (steps : List DraftStep)
    (kind : TableName) : ((d.extend steps).pool kind).Tallied := by
  induction steps generalizing d with
  | nil => exact h kind
  | cons s steps ih => exact ih (tallied_apply h s)

theorem tallied_ofSteps {steps : List DraftStep} (unplaced : ∀ s ∈ steps, s.Unplaced) :
    (ofSteps steps).Tallied := by
  have pools : ∀ kind, ((ofSteps steps).pool kind).Tallied := by
    apply tallied_extend
    intro kind
    cases kind <;> exact tallied_empty
  refine ⟨pools .identifier, pools .string, ?_, ?_⟩
  · intro p hp
    rw [procedures_ofSteps] at hp
    obtain ⟨s, hs, hp⟩ := List.mem_filterMap.mp hp
    obtain ⟨before, after, hsteps⟩ := List.append_of_mem hs
    rw [DraftStep.eq_of_procedure? hp] at hsteps
    have issued : Issued steps .identifier p.name _ := ⟨before, _, after, hsteps, .procedure p⟩
    exact List.mem_map.mpr ⟨_, mem_pool_ofSteps.mpr issued, rfl⟩
  · intro p hp
    rw [procedures_ofSteps] at hp
    obtain ⟨s, hs, hp⟩ := List.mem_filterMap.mp hp
    have own := unplaced s hs
    rwa [DraftStep.eq_of_procedure? hp] at own

/-! Where the blocks start. -/

def lastBlock? (ps : List ProcedureDraft) : Option Block :=
  ps.getLast?.map fun p => p.condition.getD p.body

def EndsInCode (ps : List ProcedureDraft) : Prop := ∀ block ∈ lastBlock? ps, block.size ≠ 0

theorem endsInCode_cons (p q : ProcedureDraft) (rest : List ProcedureDraft) :
    EndsInCode (p :: q :: rest) ↔ EndsInCode (q :: rest) := by
  rw [EndsInCode, EndsInCode, lastBlock?, lastBlock?, List.getLast?_cons_cons]

theorem starts_last_iff {p : ProcedureDraft} {base size : Nat} (positive : 0 < base)
    (hsize : base + (p.code base).length = size) :
    ((placementAt p base).body < size ∧ (placementAt p base).condition < size) ↔
      EndsInCode [p] := by
  rw [ProcedureDraft.code, List.length_append, Block.length_assemble,
    ProcedureDraft.conditionCode] at hsize
  rw [EndsInCode, lastBlock?, List.getLast?_singleton, Option.map_some, placementAt]
  cases hblock : p.condition with
  | none =>
    rw [hblock, List.length_nil] at hsize
    simp only [Option.isSome_none, Bool.false_eq_true, if_false, Option.getD_none,
      Option.mem_some, forall_eq']
    omega
  | some block =>
    rw [hblock, Block.length_assemble] at hsize
    simp only [Option.isSome_some, if_true, Option.getD_some, Option.mem_some, forall_eq']
    omega

theorem starts_iff {ps : List ProcedureDraft} (unplaced : ∀ p ∈ ps, p.place = none)
    {base size : Nat} (positive : 0 < base) (hsize : base + (laid base ps).length = size) :
    (∀ start ∈ place base ps, start.body < size ∧ start.condition < size) ↔ EndsInCode ps := by
  induction ps generalizing base with
  | nil =>
    refine ⟨fun _ block hblock => ?_, fun _ start hstart => absurd hstart List.not_mem_nil⟩
    cases hblock
  | cons p rest ih =>
    obtain ⟨first, others⟩ := List.forall_mem_cons.mp unplaced
    rw [place_cons first, List.forall_mem_cons]
    rw [laid, List.length_append, ← Nat.add_assoc] at hsize
    cases rest with
    | nil =>
      rw [starts_last_iff positive hsize]
      refine ⟨fun h => h.1, fun h => ⟨h, ?_⟩⟩
      exact fun start hstart => absurd hstart List.not_mem_nil
    | cons q rest =>
      have later := ih others (by omega) hsize
      rw [endsInCode_cons, ← later]
      refine ⟨fun h => h.2, fun h => ⟨?_, h⟩⟩
      -- The next procedure starts inside, and this one does not end behind it.
      rw [place_cons (others q List.mem_cons_self)] at h
      have next := (h _ List.mem_cons_self).1
      change base + (p.code base).length < size at next
      rw [ProcedureDraft.code, List.length_append, Block.length_assemble] at next
      refine ⟨?_, ?_⟩
      · change base < size
        omega
      · change (if p.condition.isSome then base + p.body.size else 0) < size
        split <;> omega

theorem starts_le {ps : List ProcedureDraft} (unplaced : ∀ p ∈ ps, p.place = none)
    {base size : Nat} (hsize : base + (laid base ps).length = size) :
    ∀ start ∈ place base ps, start.body ≤ size ∧ start.condition ≤ size := by
  induction ps generalizing base with
  | nil => exact fun _ h => absurd h List.not_mem_nil
  | cons p rest ih =>
    obtain ⟨first, others⟩ := List.forall_mem_cons.mp unplaced
    rw [laid, List.length_append, ← Nat.add_assoc] at hsize
    rw [place_cons first, List.forall_mem_cons]
    refine ⟨?_, ih others hsize⟩
    rw [ProcedureDraft.code, List.length_append, Block.length_assemble] at hsize
    refine ⟨?_, ?_⟩
    · change base ≤ size
      omega
    · change (if p.condition.isSome then base + p.body.size else 0) ≤ size
      split <;> omega

theorem map_starts_records (d : Draft) :
    d.layout.records.map (fun r => (r.body, r.condition)) =
      d.placements.map fun start => (.ofNat start.body, .ofNat start.condition) := by
  have lengths : d.placements.length ≤ d.procedures.toList.length :=
    Nat.le_of_eq (length_place d.tablesEnd d.procedures.toList)
  have starts := congrArg (List.map fun start : Placement =>
    (UInt32.ofNat start.body, UInt32.ofNat start.condition)) (List.map_snd_zip lengths)
  rw [List.map_map] at starts
  rw [layout, List.map_map, ← starts]
  rfl

theorem map_names_records (d : Draft) :
    d.layout.records.map (·.nameOffset) =
      d.procedures.toList.map fun p => .ofNat ((d.identifiers.offset? p.name).getD 0) := by
  have lengths : d.procedures.toList.length ≤ d.placements.length :=
    Nat.le_of_eq (length_place d.tablesEnd d.procedures.toList).symm
  have names := congrArg (List.map fun p : ProcedureDraft =>
    UInt32.ofNat ((d.identifiers.offset? p.name).getD 0)) (List.map_fst_zip lengths)
  rw [List.map_map] at names
  rw [layout, List.map_map, ← names]
  rfl

def Named (d : Draft) (entries : List RawEntry) : Prop :=
  ∀ p ∈ d.procedures.toList, ∃ k e, d.identifiers.offset? p.name = some k ∧
    (k, e) ∈ located firstOffset entries

section

variable {d : Draft} (h : d.Tallied) (small : d.build.length < UInt32.size)

include h small

theorem names_iff (entries : List RawEntry) :
    (∀ r ∈ d.layout.records, ∃ e, (r.nameOffset.toNat, e) ∈ located firstOffset entries) ↔
      d.Named entries := by
  have offsets : (∀ r ∈ d.layout.records,
      ∃ e, (r.nameOffset.toNat, e) ∈ located firstOffset entries) ↔
      ∀ k ∈ d.layout.records.map (·.nameOffset),
        ∃ e, (k.toNat, e) ∈ located firstOffset entries := by
    rw [List.forall_mem_map]
  rw [offsets, map_names_records, List.forall_mem_map, Named]
  refine forall₂_congr fun p hp => ?_
  obtain ⟨k, hk, hoffset, -⟩ := name_lt h small hp
  rw [hoffset, Option.getD_some, UInt32.toNat_ofNat_of_lt' hk]
  constructor
  · rintro ⟨e, he⟩
    exact ⟨k, e, rfl, he⟩
  · rintro ⟨_, e, ⟨⟩, he⟩
    exact ⟨e, he⟩

theorem starts_records_iff :
    (∀ r ∈ d.layout.records,
      r.body.toNat < d.build.length ∧ r.condition.toNat < d.build.length) ↔
      EndsInCode d.procedures.toList := by
  have hsize : d.tablesEnd + (laid d.tablesEnd d.procedures.toList).length = d.build.length := by
    rw [build_eq h, List.length_append, length_front h]
  have positive : 0 < d.tablesEnd := by
    rw [tablesEnd, headerSize]
    omega
  have starts : (∀ r ∈ d.layout.records,
      r.body.toNat < d.build.length ∧ r.condition.toNat < d.build.length) ↔
      ∀ start ∈ d.layout.records.map (fun r => (r.body, r.condition)),
        start.1.toNat < d.build.length ∧ start.2.toNat < d.build.length := by
    rw [List.forall_mem_map]
  rw [starts, map_starts_records, List.forall_mem_map, ← starts_iff h.unplaced positive hsize]
  refine forall₂_congr fun start hstart => ?_
  obtain ⟨hbody, hcondition⟩ := starts_le h.unplaced hsize start hstart
  rw [UInt32.toNat_ofNat_of_lt' (Nat.lt_of_le_of_lt hbody small),
    UInt32.toNat_ofNat_of_lt' (Nat.lt_of_le_of_lt hcondition small)]

theorem sound_layoutWith_iff (entries : List RawEntry) (strings : Option (List RawEntry)) :
    (d.layoutWith entries strings).Sound d.build.length ↔
      d.Named entries ∧ EndsInCode d.procedures.toList := by
  rw [← names_iff h small, ← starts_records_iff h small, ← forall₂_and]
  rfl

theorem identifiers_of_decodes {name : String} {c : Container}
    (hc : decode name d.build.toArray = .ok c) :
    ∃ entries, run entries = d.identifiers.written := by
  have fits := tablesEnd_lt h small
  rw [tablesEnd, headerSize] at fits
  have declared : (UInt32.ofNat d.identifiers.size).toNat = d.identifiers.size :=
    UInt32.toNat_ofNat_of_lt' (by omega)
  have parts := build_parts h small
  rw [encode_eq_written, ← declared, List.append_assoc, List.append_assoc, List.append_assoc,
    List.append_assoc, ← List.append_assoc (Front.bytes _)] at parts
  rcases exists_entries h.identifiers (bigEndian 4 signature.toNat ++
    ((if d.withoutStrings then bigEndian 4 absent.toNat else d.strings.encode) ++
      laid d.tablesEnd d.procedures.toList)) with split | ⟨available, bad⟩
  · exact split
  · rw [← declared] at bad
    have refused : decode name d.build.toArray = .error _ := decode_defect small
      (.identifiers d.layout.toFront _ bad parts)
    rw [hc] at refused
    contradiction

theorem strings_of_decodes {name : String} {c : Container}
    (hc : decode name d.build.toArray = .ok c) (hwritten : d.withoutStrings = false) :
    ∃ entries, run entries = d.strings.written := by
  obtain ⟨entries, hids⟩ := identifiers_of_decodes h small hc
  have fits := tablesEnd_lt h small
  rw [tablesEnd, headerSize, hwritten] at fits
  simp only [Bool.false_eq_true, if_false] at fits
  have bound : d.strings.size < absent.toNat := by
    change _ < UInt32.size - 1
    omega
  have declared : (UInt32.ofNat d.strings.size).toNat = d.strings.size :=
    UInt32.toNat_ofNat_of_lt' (Nat.lt_trans bound absent.toNat_lt)
  have marker : UInt32.ofNat d.strings.size ≠ absent := by
    intro same
    rw [same] at declared
    omega
  have parts := build_parts h small
  rw [hwritten, h.identifiers.encode_eq hids] at parts
  simp only [Bool.false_eq_true, if_false] at parts
  rw [encode_eq_written, ← declared, ← List.append_assoc (_ ++ _ ++ _),
    List.append_assoc _ d.strings.written] at parts
  rcases exists_entries h.strings (laid d.tablesEnd d.procedures.toList) with
    split | ⟨available, bad⟩
  · exact split
  · rw [← declared] at bad
    have refused : decode name d.build.toArray = .error _ := decode_defect small
      (.strings d.layout.toFront entries signature _ marker bad parts)
    rw [hc] at refused
    contradiction

end

structure Valid (d : Draft) : Prop where
  identifiers : ∃ entries, run entries = d.identifiers.written ∧ d.Named entries
  strings : d.withoutStrings = false → ∃ entries, run entries = d.strings.written
  ends : EndsInCode d.procedures.toList

theorem Valid.exists_layout {d : Draft} (h : d.Tallied) (small : d.build.length < UInt32.size)
    (valid : d.Valid) : ∃ l : Layout, l.records = d.layout.records ∧ l.bytes = d.build ∧
      l.Sound d.build.length := by
  obtain ⟨entries, hids, named⟩ := valid.identifiers
  cases hwritten : d.withoutStrings with
  | true =>
    refine ⟨d.layoutWith entries none, rfl, bytes_layoutWith h small hids ?_,
      (sound_layoutWith_iff h small entries none).mpr ⟨named, valid.ends⟩⟩
    rw [hwritten]
    rfl
  | false =>
    obtain ⟨texts, hstrs⟩ := valid.strings hwritten
    refine ⟨d.layoutWith entries (some texts), rfl, bytes_layoutWith h small hids ?_,
      (sound_layoutWith_iff h small entries (some texts)).mpr ⟨named, valid.ends⟩⟩
    rw [hwritten, h.strings.encode_eq hstrs]
    rfl

theorem valid_of_decodes {d : Draft} (h : d.Tallied) (small : d.build.length < UInt32.size)
    {name : String} {c : Container} (hc : decode name d.build.toArray = .ok c) : d.Valid := by
  obtain ⟨entries, hids⟩ := identifiers_of_decodes h small hc
  have strings := strings_of_decodes h small hc
  have sound (texts : Option (List RawEntry)) (hbytes : Layout.stringBytes texts =
      if d.withoutStrings then bigEndian 4 absent.toNat else d.strings.encode) :
      d.Named entries ∧ EndsInCode d.procedures.toList := by
    have bytes := bytes_layoutWith h small hids hbytes
    have sound := (decodes_iff_sound name d.build.toArray small bytes).mp ⟨c, hc⟩
    exact (sound_layoutWith_iff h small entries texts).mp sound
  cases hwritten : d.withoutStrings with
  | true =>
    obtain ⟨named, ends⟩ := sound none (by rw [hwritten]; rfl)
    exact ⟨⟨entries, hids, named⟩, strings, ends⟩
  | false =>
    obtain ⟨texts, hstrs⟩ := strings hwritten
    obtain ⟨named, ends⟩ := sound (some texts) (by
      rw [hwritten, h.strings.encode_eq hstrs]
      rfl)
    exact ⟨⟨entries, hids, named⟩, strings, ends⟩

theorem Tidy.valid_iff {d : Draft} (h : d.Tidy) : d.Valid ↔ EndsInCode d.procedures.toList := by
  refine ⟨fun valid => valid.ends, fun ends => ⟨⟨_, h.identifiers.run_table, ?_⟩, ?_, ends⟩⟩
  · intro p hp
    obtain ⟨k, hoffset, hmem⟩ := exists_offset? (h.named p hp)
    exact ⟨k, _, hoffset, h.identifiers.mem_located_iff.mpr ⟨_, hmem, rfl⟩⟩
  · exact fun _ => ⟨_, h.strings.run_table⟩

/-- A built file can be decoded exactly if the draft is valid. With texts that fit, it is valid
unless an empty block is the last one. -/
theorem decodes_iff_valid (name : String) {steps : List DraftStep}
    (unplaced : ∀ s ∈ steps, s.Unplaced)
    (small : (ofSteps steps).build.length < 2147483648) :
    ((∃ c, decode name (ofSteps steps).build.toArray = .ok c) ↔ (ofSteps steps).Valid) ∧
    ((∀ s ∈ steps, s.Plain) →
      ((ofSteps steps).Valid ↔ EndsInCode (steps.filterMap DraftStep.procedure?))) := by
  have tallied := tallied_ofSteps unplaced
  have hsize : (ofSteps steps).build.length < UInt32.size := by
    rw [UInt32.size]
    omega
  refine ⟨⟨?_, ?_⟩, ?_⟩
  · rintro ⟨c, hc⟩
    exact valid_of_decodes tallied hsize hc
  · intro valid
    obtain ⟨l, -, hbytes, sound⟩ := valid.exists_layout tallied hsize
    exact (decodes_iff_sound name (ofSteps steps).build.toArray hsize hbytes).mpr sound
  · intro plain
    rw [(tidy_ofSteps plain).valid_iff, procedures_ofSteps]

def gateSteps : List DraftStep :=
  [.procedure { name := "gate" }, .procedure { name := "start", condition := some doorBlock }]

theorem gate_decodes :
    (∀ s ∈ gateSteps, s.Plain) ∧ (ofSteps gateSteps).build.length < 2147483648 ∧
    ∃ c, decode "gate" (ofSteps gateSteps).build.toArray = .ok c := by
  have plain : ∀ s ∈ gateSteps, s.Plain := by
    simp only [gateSteps, List.forall_mem_cons, DraftStep.Plain, longest]
    exact ⟨by decide, by decide, by simp⟩
  have small : (ofSteps gateSteps).build.length < 2147483648 := by decide +kernel
  have ends : EndsInCode (gateSteps.filterMap DraftStep.procedure?) := by
    intro block hblock
    cases hblock
    decide
  obtain ⟨decodes, valid⟩ := decodes_iff_valid "gate" (fun s hs => (plain s hs).unplaced) small
  exact ⟨plain, small, decodes.mpr ((valid plain).mpr ends)⟩

def bareSteps : List DraftStep := [.procedure { name := "start" }]

/-- Nothing is behind the block of this procedure, so that it starts outside. -/
theorem bare_not_decoded :
    (∀ s ∈ bareSteps, s.Unplaced) ∧ (ofSteps bareSteps).build.length < 2147483648 ∧
    ¬ ∃ c, decode "bare" (ofSteps bareSteps).build.toArray = .ok c := by
  have unplaced : ∀ s ∈ bareSteps, s.Unplaced := by
    simp [bareSteps, DraftStep.Unplaced]
  have small : (ofSteps bareSteps).build.length < 2147483648 := by decide +kernel
  refine ⟨unplaced, small, ?_⟩
  rintro ⟨c, hc⟩
  have valid := valid_of_decodes (tallied_ofSteps unplaced) (Nat.lt_trans small (by decide)) hc
  exact valid.ends {} rfl rfl

end Draft

end ScriptMachine
