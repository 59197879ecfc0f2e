import ScriptMachine.Host.Refusing
import ScriptMachine.Proofs.Machine.Straying
import ScriptMachine.Proofs.Session.History

/-!
# Addresses that need no check

No session of a decoded container leaves its code, in a run or outside. Its commands always
find the place where their runs begin. A run is aborted for want of an address only where the
script has worked it out itself, or where the code ends within an instruction.
-/

namespace ScriptMachine

variable {σ : Type} {host : Host σ} {script : Container}

def Session.Within (script : Container) (s : Session) : Prop :=
  s.script = script ∧ s.machine.position ≤ script.size

theorem Run.within_tick (r : Run σ) (h : r.session.Within script) :
    (r.tick host).session.Within script := by
  obtain ⟨hscript, inside⟩ := h
  have step (m : Machine) (w : World σ) {outcome : StepOutcome}
      (hstep : r.session.machine.step r.session.script host r.world = (outcome, m, w)) :
      m.position ≤ script.size := by
    rw [hscript] at hstep
    have bound := Machine.position_step_le host r.world inside
    rwa [hstep] at bound
  have ticked := r.ticked host
  generalize r.tick host = p at ticked ⊢
  cases ticked with
  | codeEnd | spent => exact ⟨hscript, inside⟩
  | back m w _ _ hstep | onward m w _ _ hstep | halted m w _ _ hstep | failed _ m w _ _ hstep =>
    exact ⟨hscript, step m w hstep⟩

namespace Session

variable {s s' : Session} {w w' : World σ} {command : Command}

theorem Within.runFrom (h : s.Within script) (w : World σ) {address : Nat}
    (inside : address < script.size) (prepare : Machine → Machine)
    (still : ∀ m, (prepare m).position = m.position) :
    ∃ r, s.runFrom w address prepare = .going r ∧ r.session.machine.position = address ∧
      r.session.Within script := by
  obtain ⟨rfl, -⟩ := h
  rw [Session.runFrom, if_pos inside]
  exact ⟨_, rfl, still _, rfl, Nat.le_trans (Nat.le_of_eq (still _)) (Nat.le_of_lt inside)⟩

def entry? (script : Container) : Command → Option Nat
  | .setUp => some 0
  | .call procedure _ => (script.procedure? procedure).map (·.body.toNat)

theorem Within.started (enterable : script.Enterable) (h : s.Within script) {p : Progress σ}
    (hbegin : s.begin command w = .started p) :
    ∃ r, p = .going r ∧ entry? script command = some r.session.machine.position ∧
      r.session.Within script := by
  have begun := beginning command s w
  rw [hbegin] at begun
  cases begun with
  | setUp =>
    obtain ⟨r, hr, position, within⟩ := h.runFrom (w.note (.initializing s.script.name))
      enterable.start id fun _ => rfl
    exact ⟨r, hr, by rw [position, entry?], within⟩
  | call procedure context p found =>
    have told : (s.told context).Within script := h
    rw [h.1] at found
    obtain ⟨r, hr, position, within⟩ := told.runFrom (w.note (.calling s.script.name procedure
      p.body.toNat)) (enterable.of_procedure? found) prepareCall fun _ => rfl
    exact ⟨r, hr, by rw [position, entry?, found, Option.map_some], within⟩

theorem Within.conclude (h : s.Within script) (command : Command) (outcome : Outcome)
    (w : World σ) : (s.conclude command outcome w).2.1.Within script := by
  rw [Session.conclude, discardResult]
  cases s.machine.data <;> cases command <;> exact h

theorem Within.attempt (enterable : script.Enterable) (h : s.Within script) (host : Host σ)
    (fuel : Nat) (command : Command) (w : World σ) :
    (s.attempt host fuel command w).session.Within script := by
  rw [Session.attempt]
  cases hbegin : s.begin command w with
  | declined outcome s₁ w₁ =>
    have begun := beginning command s w
    rw [hbegin] at begun
    cases begun <;> exact h
  | started p =>
    obtain ⟨r, rfl, -, within⟩ := h.started enterable hbegin
    have ran : ((Progress.going r).advance host fuel).session.Within script :=
      Progress.advance_preserves (P := fun p => p.session.Within script)
        (fun r => r.within_tick) (show (Progress.going r).session.Within script from within) fuel
    simp only
    generalize (Progress.going r).advance host fuel = p at ran ⊢
    cases p with
    | going r' => exact ran
    | ended outcome s₁ w₁ => exact ran.conclude command outcome w₁

/-- The states that a session can come to from a fresh one: within the runs of its commands,
after them, and after single steps outside any run. -/
inductive Visited (fresh : Session) : Session → Prop where
  | fresh : Visited fresh fresh
  | stepped {σ : Type} {s : Session} (host : Host σ) (w : World σ) :
      Visited fresh s → Visited fresh (s.step host w).2.1
  | attempted {σ : Type} {s : Session} (host : Host σ) (fuel : Nat) (command : Command)
      (w : World σ) : Visited fresh s → Visited fresh (s.attempt host fuel command w).session

theorem Visited.within {owner : Option Handle} {config : Config} (enterable : script.Enterable)
    (h : Visited (.new script owner config) s) : s.Within script := by
  induction h with
  | fresh => exact ⟨rfl, Nat.zero_le _⟩
  | @stepped _ s host w _ ih =>
    obtain ⟨rfl, inside⟩ := ih
    exact ⟨rfl, Machine.position_step_le host w inside⟩
  | attempted host fuel command w _ ih => exact ih.attempt enterable host fuel command w

theorem Within.astray_of_aborted (enterable : script.Enterable) (h : s.Within script)
    {fuel : Nat} {a : Int64}
    (hobey : s.obey host fuel command w = some (.aborted (.addressOutOfRange a), s', w')) :
    ∃ ticks r, ticks < fuel ∧ s.attempt host ticks command w = .going r ∧
      r.session.machine.Astray script a := by
  rcases obey_cases hobey with hbegin | ⟨p, s₁, w₁, hbegin, hp, -⟩
  · have begun := beginning command s w
    rw [hbegin] at begun
    cases begun
  · obtain ⟨r₀, rfl, -, -⟩ := h.started enterable hbegin
    obtain ⟨ticks, r, before, going, last, -⟩ := Progress.exists_last_tick hp
    have attempted : s.attempt host ticks command w = .going r := by
      simp only [Session.attempt, hbegin, going]
    have within : r.session.Within script := by
      have within := h.attempt enterable host ticks command w
      rwa [attempted] at within
    refine ⟨ticks, r, before, attempted, ?_⟩
    have ticked := r.ticked host
    rw [last] at ticked
    generalize hfault : Fault.addressOutOfRange a = fault at ticked
    cases ticked with
    | spent => contradiction
    | failed _ m w _ _ hstep =>
      subst hfault
      rw [within.1] at hstep
      exact (Machine.step_astray_iff enterable host r.world).mp (congrArg Prod.fst hstep)

end Session

/-- A session of a decoded container never leaves its code. Its runs begin where the container
says they do, the end of startup code and the calls of procedures always reach their place, and
what an address is missing for is an instruction that is cut off, or one that goes where the
script has told it to. -/
theorem decoded_addresses {name : String} {file : Array UInt8} {owner : Option Handle}
    {config : Config} {s : Session} (loaded : Container.decode name file = .ok script)
    (visited : Session.Visited (.new script owner config) s) :
    s.machine.position ≤ script.size ∧
    ∀ {σ : Type} (host : Host σ) (w : World σ),
      (∀ command p, s.begin command w = .started p →
        ∃ r, p = .going r ∧ Session.entry? script command = some r.session.machine.position) ∧
      (∀ i, s.machine.instruction? script = some i → i.opcode = .exitProg →
        ∃ s' w', s.step host w = (.continuing, s', w') ∧ s'.machine.position = 0) ∧
      (∀ i index below p, s.machine.instruction? script = some i → i.opcode = .call →
        i.machine.data = .int index :: below → 0 ≤ index.toInt →
        script.procedureAt? index.toInt.toNat = some p →
        ∃ s' w', s.step host w = (.continuing, s', w') ∧ s'.machine.position = p.body.toNat) ∧
      (∀ a, (s.step host w).1 = .failed (.addressOutOfRange a) ↔ s.machine.Astray script a) ∧
      ∀ fuel command a s' w',
        s.obey host fuel command w = some (.aborted (.addressOutOfRange a), s', w') →
        ∃ ticks r, ticks < fuel ∧ s.attempt host ticks command w = .going r ∧
          r.session.machine.Astray script a := by
  have enterable := Container.enterable_of_decode loaded
  have within := visited.within enterable
  obtain rfl : s.script = script := within.1
  refine ⟨within.2, fun host w => ⟨?begins, ?exits, ?calls, ?steps, ?runs⟩⟩
  case begins =>
    intro command p hbegin
    obtain ⟨r, hr, entry, -⟩ := within.started enterable hbegin
    exact ⟨r, hr, entry⟩
  case exits =>
    intro i hi exits
    have target : i.target? s.script = some 0 := by simp only [Instruction.target?, exits]
    obtain ⟨m, w', hstep, position⟩ :=
      Machine.step_of_inside enterable host w hi (.inr exits) target
    exact ⟨{ s with machine := m }, w', by simp only [Session.step, hstep], position⟩
  case calls =>
    intro i index below p hi calls hdata positive found
    have target : i.target? s.script = some (.ofNat p.body.toNat) := by
      simp only [Instruction.target?, calls, hdata, if_pos positive, found, Option.map_some]
    obtain ⟨m, w', hstep, position⟩ :=
      Machine.step_of_inside enterable host w hi (.inl calls) target
    rw [Exec.toInt_body] at position
    exact ⟨{ s with machine := m }, w', by simp only [Session.step, hstep], position⟩
  case steps => exact fun a => Machine.step_astray_iff enterable host w
  case runs => exact fun fuel command a s' w' => within.astray_of_aborted enterable

def strayLayout : Container.Layout where
  header := [0xC0, 0x01, 0x00, 0x00, 0x03, 0xE8, 0x80, 0x04] ++ List.replicate 34 0
  header_length := rfl
  records := []
  identifiers := []
  signature := signature
  strings := none
  rest := []

def strayScript : Container where
  name := "stray"
  code := strayLayout.bytes.toArray
  procedures := #[]
  identifiers := []
  strings := []

theorem stray_addresses :
    Container.decode "stray" strayLayout.bytes.toArray = .ok strayScript ∧
    ∃ ticks r, ticks < 2 ∧ (Session.new strayScript none {}).attempt Refusing.host ticks .setUp
        { host := () } = .going r ∧
      r.session.machine.Astray strayScript 1000 := by
  have loaded : Container.decode "stray" strayLayout.bytes.toArray = .ok strayScript :=
    Container.decode_layout "stray" (by decide) rfl
  have aborted : ((Session.new strayScript none {}).obey Refusing.host 2 .setUp
      { host := () }).map (·.1) = some (.aborted (.addressOutOfRange 1000)) := by decide +kernel
  obtain ⟨⟨outcome, s, w⟩, hobey, rfl⟩ := Option.map_eq_some_iff.mp aborted
  have visited : Session.Visited (.new strayScript none {}) (.new strayScript none {}) := .fresh
  obtain ⟨-, during⟩ := decoded_addresses loaded visited
  obtain ⟨-, -, -, -, runs⟩ := during Refusing.host { host := () }
  exact ⟨loaded, runs 2 .setUp 1000 s w hobey⟩

end ScriptMachine
