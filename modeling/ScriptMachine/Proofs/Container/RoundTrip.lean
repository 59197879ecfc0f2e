import Mathlib.Data.List.Forall2
import ScriptMachine.Proofs.Container.Acceptance
import ScriptMachine.Proofs.Container.Placing

/-!
# Building and decoding

Decoding the file of plain steps gives back what was added. The only thing that can be
wrong with such a file is a block without code at its very end, which starts outside.
-/

namespace ScriptMachine.Draft

open Container Container.RawEntry Pool

def PlainText (text : String) : Prop := ∀ c ∈ text.toList, c.toNat ≠ 0 ∧ c.toNat < 128

structure Matches (file : List UInt8) (p : ProcedureDraft) (q : Procedure) : Prop where
  name : q.name = latin1 (textBytes p.name)
  flags : q.flags = p.flags
  delay : q.delay = p.delay
  argumentCount : q.argumentCount = p.argumentCount
  body : StandsAt file q.body.toNat (p.body.assemble q.body)
  condition : match p.condition with
    | some block => StandsAt file q.condition.toNat (block.assemble q.condition)
    | none => q.condition = 0

structure Keeps (steps : List DraftStep) (kind : TableName) (lookup : UInt32 → Option String) :
    Prop where
  key : ∀ text k, Issued steps kind text k →
    k < UInt32.size ∧ lookup (.ofNat k) = some (latin1 (textBytes text))
  only : ∀ key value, lookup key = some value → ∃ text, Issued steps kind text key.toNat
  distinct : ∀ text text' k k', Issued steps kind text k → Issued steps kind text' k' →
    (k = k' ↔ text = text')
  exact : ∀ text k, Issued steps kind text k → (lookup (.ofNat k) = some text ↔ PlainText text)

theorem keeps_of_coherent {steps : List DraftStep} {kind : TableName}
    {lookup : UInt32 → Option String} (h : ((ofSteps steps).pool kind).Coherent)
    (small : firstOffset + (run ((ofSteps steps).pool kind).table).length ≤ UInt32.size)
    (finds : ∀ k text, lookup k = some text ↔
      ∃ e, (k.toNat, e) ∈ located firstOffset ((ofSteps steps).pool kind).table ∧
        text.toList = e.characters) :
    Keeps steps kind lookup := by
  have key (text : String) (k : Nat) (issued : Issued steps kind text k) :
      k < UInt32.size ∧ lookup (.ofNat k) = some (latin1 (textBytes text)) := by
    have hmem := mem_pool_ofSteps.mpr issued
    have hlocated := h.mem_located_iff.mpr ⟨text, hmem, rfl⟩
    have hend := end_le_of_mem_located hlocated
    have hk : k < UInt32.size := by
      change k + _ + 2 ≤ _ at hend
      omega
    have read := RawEntry.eq_latin1_iff.mp (h.latin1_rawEntry hmem).symm
    refine ⟨hk, (finds _ _).mpr ⟨rawEntry text, ?_, read⟩⟩
    rw [UInt32.toNat_ofNat_of_lt' hk]
    exact hlocated
  constructor
  · exact key
  · intro k value hvalue
    obtain ⟨e, he, -⟩ := (finds k value).mp hvalue
    obtain ⟨text, hmem, -⟩ := h.mem_located_iff.mp he
    exact ⟨text, mem_pool_ofSteps.mp hmem⟩
  · intro text text' k k' issued issued'
    exact h.offset_injective (mem_pool_ofSteps.mpr issued) (mem_pool_ofSteps.mpr issued')
  · intro text k issued
    rw [(key text k issued).2, Option.some_inj]
    exact latin1_textBytes_eq_self_iff text

theorem Encodes.matches {d : Draft} (h : d.Tidy) {file : List UInt8} {p : ProcedureDraft}
    {r : Record} {q : Procedure} (encodes : d.Encodes file p r) (reads : d.layout.Reads r q) :
    Matches file p q := by
  obtain ⟨e, he, hname⟩ := reads.name
  obtain ⟨text, hmem, rfl⟩ := h.identifiers.mem_located_iff.mp he
  -- The name was resolved by its offset, which only the procedure's own name has.
  obtain rfl := (h.identifiers.offset_injective encodes.name hmem).mp rfl
  constructor
  · rw [RawEntry.eq_latin1_iff.mpr hname, h.identifiers.latin1_rawEntry hmem]
  · exact congrArg Flags.mk (reads.flags.trans encodes.flags)
  · rw [reads.delay, encodes.delay]
  · rw [reads.argumentCount, encodes.argumentCount]
  · rw [reads.body]
    exact encodes.body
  · rw [reads.condition]
    exact encodes.condition

theorem forall₂_matches {d : Draft} (h : d.Tidy) {file : List UInt8} {ps : List ProcedureDraft}
    {rs : List Record} {qs : List Procedure} (encodes : List.Forall₂ (d.Encodes file) ps rs)
    (reads : List.Forall₂ d.layout.Reads rs qs) : List.Forall₂ (Matches file) ps qs := by
  induction encodes generalizing qs with
  | nil =>
    cases reads
    exact .nil
  | cons first others ih =>
    cases reads with
    | cons reads reads' => exact .cons (first.matches h reads) (ih reads')

theorem exists_encoded {d : Draft} {file : List UInt8} {ps : List ProcedureDraft}
    {rs : List Record} (h : List.Forall₂ (d.Encodes file) ps rs) {r : Record} (hr : r ∈ rs) :
    ∃ p ∈ ps, d.Encodes file p r := by
  induction h with
  | nil => simp at hr
  | cons first others ih =>
    rcases List.mem_cons.mp hr with rfl | hr
    · exact ⟨_, List.mem_cons_self, first⟩
    · obtain ⟨p, hp, encodes⟩ := ih hr
      exact ⟨p, List.mem_cons_of_mem _ hp, encodes⟩

theorem resolve_named {l : Layout} (small : firstOffset + (run l.identifiers).length ≤ UInt32.size)
    {size : Nat} {r : Record} {e : RawEntry} (name : l.Names r.nameOffset e)
    (refused : ¬ l.Admits size r) (index : Nat) :
    ∃ procedure point offset, resolve (tableOf l.identifiers) size index r =
      .error (.outside procedure point offset size) := by
  have hname := (entryText?_tableOf small r.nameOffset _).mpr ⟨e, name, toList_latin1 e.text⟩
  by_cases hbody : size ≤ r.body.toNat
  · refine ⟨latin1 e.text, .body, r.body, ?_⟩
    simp [resolve, hname, hbody]
  · have hcondition : size ≤ r.condition.toNat := by
      exact Nat.not_lt.mp fun hlt => refused ⟨⟨e, name⟩, by omega, hlt⟩
    refine ⟨latin1 e.text, .condition, r.condition, ?_⟩
    simp [resolve, hname, hbody, hcondition]

theorem Encodes.names {d : Draft} (h : d.Tidy) {file : List UInt8} {p : ProcedureDraft}
    {r : Record} (encodes : d.Encodes file p r) :
    d.layout.Names r.nameOffset (rawEntry p.name) :=
  h.identifiers.mem_located_iff.mpr ⟨p.name, encodes.name, rfl⟩

def Filled (p : ProcedureDraft) : Prop :=
  p.body.size ≠ 0 ∧ ∀ block ∈ p.condition, block.size ≠ 0

theorem Encodes.admits {d : Draft} (h : d.Tidy) {file : List UInt8} {p : ProcedureDraft}
    {r : Record} (encodes : d.Encodes file p r) (filled : Filled p) :
    d.layout.Admits file.length r := by
  have hbody := encodes.body.end_le
  rw [Block.length_assemble] at hbody
  have body := filled.1
  refine ⟨⟨_, encodes.names h⟩, by omega, ?_⟩
  have hcondition := encodes.condition
  cases hblock : p.condition with
  | none =>
    rw [hblock] at hcondition
    change r.condition = 0 at hcondition
    rw [hcondition]
    change 0 < file.length
    omega
  | some block =>
    rw [hblock] at hcondition
    have hend := StandsAt.end_le hcondition
    rw [Block.length_assemble] at hend
    have condition := filled.2 block hblock
    omega

structure Kept (steps : List DraftStep) (file : List UInt8) (c : Container) : Prop where
  procedures : List.Forall₂ (Matches file) (steps.filterMap DraftStep.procedure?)
    c.procedures.toList
  identifiers : Keeps steps .identifier c.identifier?
  strings : .withoutStrings ∉ steps → Keeps steps .string c.string?
  withoutStrings : .withoutStrings ∈ steps → c.strings = []

theorem kept_of_decodesTo {steps : List DraftStep} {file : Array UInt8} {c : Container}
    (h : (ofSteps steps).Tidy) (hfile : (ofSteps steps).build = file.toList)
    (small : file.size < UInt32.size) (decodes : (ofSteps steps).layout.DecodesTo c) :
    Kept steps file.toList c := by
  have hsize : (ofSteps steps).build.length < UInt32.size := by rwa [hfile, Array.length_toList]
  have hlayout := (bytes_layout h hsize).trans hfile
  obtain ⟨hids, hstrs⟩ := firstOffset_add_le small hlayout
  have encodes := encodes_layout h hsize
  rw [procedures_ofSteps, hfile] at encodes
  refine ⟨forall₂_matches h encodes decodes.procedures,
    keeps_of_coherent h.identifiers hids decodes.identifier?, ?_, ?_⟩
  · intro written
    have hflag : (ofSteps steps).withoutStrings = false :=
      Bool.eq_false_iff.mpr (mt (withoutStrings_ofSteps steps).mp written)
    have hstrings : (ofSteps steps).layout.strings.getD [] = (ofSteps steps).strings.table := by
      rw [layout, hflag]
      rfl
    rw [hstrings] at hstrs
    have finds := decodes.string?
    rw [hstrings] at finds
    exact keeps_of_coherent h.strings hstrs finds
  · intro omitted
    have hflag := (withoutStrings_ofSteps steps).mpr omitted
    have hstrings := decodes.strings
    rw [layout, hflag] at hstrings
    exact List.map_eq_nil_iff.mp hstrings

/-- Either every record of a built file is admitted, or the first other one belongs to a
procedure with an empty block. -/
theorem decode_tidy (name : String) {steps : List DraftStep} (h : (ofSteps steps).Tidy)
    (small : (ofSteps steps).build.length < UInt32.size) :
    (∃ c, decode name (ofSteps steps).build.toArray = .ok c ∧
      Kept steps (ofSteps steps).build c) ∨
    ∃ p ∈ steps.filterMap DraftStep.procedure?, ¬ Filled p ∧ ∃ procedure point offset,
      decode name (ofSteps steps).build.toArray =
        .error (.outside procedure point offset (ofSteps steps).build.length) := by
  have small' : (ofSteps steps).build.toArray.size < UInt32.size := small
  have hlayout := bytes_layout h small
  rcases all_or_first ((ofSteps steps).layout.Admits (ofSteps steps).build.length)
    (ofSteps steps).layout.records with sound | ⟨before, r, after, hrecords, hbefore, hr⟩
  · obtain ⟨c, hc, -, -, decodes⟩ := decode_sound name small' hlayout sound
    exact .inl ⟨c, hc, kept_of_decodesTo h rfl small' decodes⟩
  · refine .inr ?_
    have hmem : r ∈ (ofSteps steps).layout.records := by
      rw [hrecords]
      exact List.mem_append_right _ List.mem_cons_self
    obtain ⟨p, hp, encodes⟩ := exists_encoded (encodes_layout h small) hmem
    obtain ⟨procedure, point, offset, hresolve⟩ :=
      resolve_named (firstOffset_add_le small' hlayout).1 (encodes.names h) hr before.length
    refine ⟨p, ?_, fun filled => hr (encodes.admits h filled), procedure, point, offset, ?_⟩
    · rwa [procedures_ofSteps] at hp
    · exact decode_unresolved small' hlayout.symm hrecords hbefore hresolve

theorem kept_of_decode {name : String} {steps : List DraftStep} {c : Container}
    (plain : ∀ s ∈ steps, s.Plain) (small : (ofSteps steps).build.length < 2147483648)
    (loads : decode name (ofSteps steps).build.toArray = .ok c) :
    Kept steps (ofSteps steps).build c := by
  have hsize : (ofSteps steps).build.length < UInt32.size := by
    rw [UInt32.size]
    omega
  rcases decode_tidy name (tidy_ofSteps plain) hsize with
    ⟨c', hc, kept⟩ | ⟨_, _, _, _, _, _, herror⟩
  · rw [loads] at hc
    cases hc
    exact kept
  · rw [loads] at herror
    contradiction

/-- A built file has no defect but an offset outside, decodes to what was added, and does
decode if no block is empty. -/
theorem decode_build (name : String) (steps : List DraftStep) (plain : ∀ s ∈ steps, s.Plain)
    (small : (ofSteps steps).build.length < 2147483648) :
    (∀ e, decode name (ofSteps steps).build.toArray = .error e →
      ∃ procedure point offset,
        e = .outside procedure point offset (ofSteps steps).build.length) ∧
    (∀ c, decode name (ofSteps steps).build.toArray = .ok c →
      Kept steps (ofSteps steps).build c) ∧
    ((∀ p ∈ steps.filterMap DraftStep.procedure?, Filled p) →
      ∃ c, decode name (ofSteps steps).build.toArray = .ok c) := by
  have hsize : (ofSteps steps).build.length < UInt32.size := by
    rw [UInt32.size]
    omega
  rcases decode_tidy name (tidy_ofSteps plain) hsize with
    ⟨c, hc, kept⟩ | ⟨p, hp, empty, procedure, point, offset, herror⟩
  · refine ⟨?_, ?_, fun _ => ⟨c, hc⟩⟩
    · intro e he
      rw [hc] at he
      contradiction
    · intro c' hc'
      rw [hc] at hc'
      cases hc'
      exact kept
  · refine ⟨?_, ?_, fun filled => absurd (filled p hp) empty⟩
    · intro e he
      rw [herror] at he
      cases he
      exact ⟨procedure, point, offset, rfl⟩
    · intro c hc
      rw [herror] at hc
      contradiction

def doorBlock : Block := ({} : Block).op .exitProg

def doorProcedure : ProcedureDraft where
  name := "start"
  body := doorBlock
  condition := some doorBlock
  flags := ⟨0x101⟩
  delay := 30
  argumentCount := 2

def doorSteps : List DraftStep :=
  [.string "caf\u00E9", .header [0x80, 0x10], .procedure doorProcedure, .string "door",
    .string "caf\u00E9", .identifier "start"]

theorem decode_build_door :
    (∀ s ∈ doorSteps, s.Plain) ∧ (ofSteps doorSteps).build.length < 2147483648 ∧
    ∃ c, decode "door" (ofSteps doorSteps).build.toArray = .ok c ∧
      Kept doorSteps (ofSteps doorSteps).build c := by
  have plain : ∀ s ∈ doorSteps, s.Plain := by
    simp only [doorSteps, List.forall_mem_cons, DraftStep.Plain, doorProcedure, longest]
    exact ⟨by decide, trivial, ⟨by decide, trivial⟩, by decide, by decide, by decide, by simp⟩
  have small : (ofSteps doorSteps).build.length < 2147483648 := by decide +kernel
  have filled : ∀ p ∈ doorSteps.filterMap DraftStep.procedure?, Filled p := by
    intro p hp
    obtain rfl := List.mem_singleton.mp hp
    exact ⟨by decide, fun block hblock => by cases hblock; decide⟩
  obtain ⟨-, kept, decodes⟩ := decode_build "door" doorSteps plain small
  obtain ⟨c, hc⟩ := decodes filled
  exact ⟨plain, small, c, hc, kept c hc⟩

end ScriptMachine.Draft
