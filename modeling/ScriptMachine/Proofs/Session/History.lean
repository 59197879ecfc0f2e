import Mathlib.Data.List.Forall2
import ScriptMachine.Proofs.Session.Mirroring
import ScriptMachine.Proofs.Session.Trace

/-!
# Histories of commands

What has come of a sequence of commands, also if the last one started is still running
when its ticks are used up. Commands carried out by sessions and hosts that cannot be told
apart have the same outcomes. A session that some commands have led to still has the
script, the owner and the tick limit it was made with, and no call context.
-/

namespace ScriptMachine

variable {σ τ : Type}

namespace Session

def cleared (s : Session) : Session := { s with machine := { s.machine with overrides := false } }

def told (s : Session) (context : CallContext) : Session :=
  { s with machine := { s.machine with overrides := false, context } }

inductive Beginning (s : Session) (w : World σ) : Command → Begun σ → Prop where
  | alreadyInitialized : s.machine.initialized = true →
      Beginning s w .setUp (.declined .alreadyInitialized s w)
  | setUp : s.machine.initialized = false →
      Beginning s w .setUp (.started (s.runFrom (w.note (.initializing s.script.name)) 0 id))
  | noSuchProcedure (procedure : String) (context : CallContext) :
      s.script.procedure? procedure = none →
      Beginning s w (.call procedure context) (.declined .noSuchProcedure s.cleared
        (w.note (.noSuchProcedure s.script.name procedure)))
  | call (procedure : String) (context : CallContext) (p : Procedure) :
      s.script.procedure? procedure = some p →
      Beginning s w (.call procedure context) (.started ((s.told context).runFrom
        (w.note (.calling s.script.name procedure p.body.toNat)) p.body.toNat prepareCall))

theorem beginning (command : Command) (s : Session) (w : World σ) :
    Beginning s w command (s.begin command w) := by
  cases command with
  | setUp =>
    rw [begin]
    split
    · exact .alreadyInitialized ‹_›
    · exact .setUp (Bool.eq_false_iff.mpr ‹_›)
  | call procedure context =>
    simp only [begin]
    cases h : s.script.procedure? procedure with
    | none => exact .noSuchProcedure procedure context h
    | some p => exact .call procedure context p h

def attempt (host : Host σ) (fuel : Nat) (command : Command) (s : Session) (w : World σ) :
    Progress σ :=
  match s.begin command w with
  | .declined outcome s w => .ended outcome s w
  | .started p =>
    match p.advance host fuel with
    | .ended outcome s w =>
      .ended outcome (s.conclude command outcome w).2.1 (s.conclude command outcome w).2.2
    | .going r => .going r

theorem obey_eq_some_iff {host : Host σ} {fuel : Nat} {command : Command} {s s' : Session}
    {w w' : World σ} {outcome : Outcome} :
    s.obey host fuel command w = some (outcome, s', w') ↔
      s.attempt host fuel command w = .ended outcome s' w' := by
  rw [obey, attempt]
  cases s.begin command w with
  | declined outcome' s₁ w₁ => simp
  | started p =>
    cases hp : p.advance host fuel with
    | ended outcome' s₁ w₁ => simp [hp, conclude]
    | going r => simp [hp]

end Session

structure Report (σ : Type) where
  outcomes : List Outcome
  session : Session
  world : World σ

/-- Commands one after the other, each with the host it is given, for at most `fuel` ticks
each. A command that is still running then is the last one. -/
def Session.carryOut (fuel : Nat) :
    List (Host σ × Command) → Session → World σ → Report σ
  | [], s, w => ⟨[], s, w⟩
  | (host, command) :: rest, s, w =>
    match s.attempt host fuel command w with
    | .ended outcome s w =>
      { carryOut fuel rest s w with outcomes := outcome :: (carryOut fuel rest s w).outcomes }
    | .going r => ⟨[], r.session, r.world⟩

/-! Commands that cannot be told apart. -/

structure Report.Mirrors (view : τ → σ) (a' : Report τ) (a : Report σ) : Prop where
  outcomes : a'.outcomes = a.outcomes
  session : a.session.Alike a'.session
  world : a'.world.Mirrors view a.world

namespace Session

variable {view : τ → σ} {host' : Host τ} {host : Host σ} {w' : World τ} {w : World σ}
  {s' s : Session}

theorem begin_mirrors (alike : s.Alike s') (h : w'.Mirrors view w) (command : Command) :
    (∃ outcome s₁' s₁ w₁' w₁, s'.begin command w' = .declined outcome s₁' w₁' ∧
      s.begin command w = .declined outcome s₁ w₁ ∧ s₁.Alike s₁' ∧ w₁'.Mirrors view w₁) ∨
    ∃ p' p, s'.begin command w' = .started p' ∧ s.begin command w = .started p ∧
      Progress.Mirrors view p' p := by
  obtain ⟨position, opcode, opcodeOffset, hmachine⟩ := alike.machine
  cases command with
  | setUp =>
    have hinitialized : s'.machine.initialized = s.machine.initialized := by rw [hmachine]
    simp only [begin, hinitialized]
    cases s.machine.initialized with
    | true => exact .inl ⟨_, s', s, w', w, rfl, rfl, alike, h⟩
    | false => exact .inr ⟨_, _, rfl, rfl, runFrom_mirrors alike (h.note _ _) 0 id fun _ _ _ => rfl⟩
  | call procedure context =>
    have hprocedure : s'.script.procedure? procedure = s.script.procedure? procedure := by
      rw [alike.script]
    simp only [begin, hprocedure]
    cases s.script.procedure? procedure with
    | none =>
      refine .inl ⟨_, s'.cleared, s.cleared, _, _, rfl, rfl, ?_, h.note _ _⟩
      refine ⟨alike.script, alike.maxTicks, position, opcode, opcodeOffset, ?_⟩
      simp only [cleared, hmachine]
    | some p =>
      have told : (s.told context).Alike (s'.told context) := by
        refine ⟨alike.script, alike.maxTicks, position, opcode, opcodeOffset, ?_⟩
        simp only [Session.told, hmachine]
      refine .inr ⟨_, _, rfl, rfl, ?_⟩
      exact runFrom_mirrors told (h.note _ _) p.body.toNat prepareCall fun _ _ _ => rfl

theorem conclude_mirrors (alike : s.Alike s') (h : w'.Mirrors view w) (command : Command)
    (outcome : Outcome) :
    (s.conclude command outcome w).2.1.Alike (s'.conclude command outcome w').2.1 ∧
      (s'.conclude command outcome w').2.2.Mirrors view (s.conclude command outcome w).2.2 := by
  obtain ⟨position, opcode, opcodeOffset, hmachine⟩ := alike.machine
  have hdata : s'.machine.data = s.machine.data := by rw [hmachine]
  simp only [conclude, discardResult, hdata]
  cases s.machine.data with
  | nil =>
    refine ⟨⟨alike.script, alike.maxTicks, position, opcode, opcodeOffset, ?_⟩, h.note _ _⟩
    cases command <;> simp only [settled, hmachine]
  | cons v rest =>
    refine ⟨⟨alike.script, alike.maxTicks, position, opcode, opcodeOffset, ?_⟩, h⟩
    cases command <;> simp only [settled, hmachine]

theorem attempt_mirrors (mimics : host'.Mimics view host) (alike : s.Alike s')
    (h : w'.Mirrors view w) (fuel : Nat) (command : Command) :
    Progress.Mirrors view (s'.attempt host' fuel command w') (s.attempt host fuel command w) := by
  rcases begin_mirrors alike h command with
    ⟨outcome, s₁', s₁, w₁', w₁, hbegin', hbegin, alike₁, h₁⟩ | ⟨p', p, hbegin', hbegin, hp⟩
  · rw [attempt, attempt, hbegin', hbegin]
    exact .ended outcome alike₁ h₁
  · have ran := Progress.advance_mirrors mimics hp fuel
    simp only [attempt, hbegin', hbegin]
    generalize p'.advance host' fuel = q' at ran ⊢
    generalize p.advance host fuel = q at ran ⊢
    cases ran with
    | going hr => exact .going hr
    | ended outcome alike₁ h₁ =>
      obtain ⟨alike₂, h₂⟩ := conclude_mirrors alike₁ h₁ command outcome
      exact .ended outcome alike₂ h₂

theorem carryOut_mirrors {commands' : List (Host τ × Command)} {commands : List (Host σ × Command)}
    (mimics : List.Forall₂ (fun c' c => c'.1.Mimics view c.1 ∧ c'.2 = c.2) commands' commands)
    (alike : s.Alike s') (h : w'.Mirrors view w) (fuel : Nat) :
    Report.Mirrors view (s'.carryOut fuel commands' w') (s.carryOut fuel commands w) := by
  induction mimics generalizing s' s w' w with
  | nil => exact ⟨rfl, alike, h⟩
  | @cons c' c _ _ first _ ih =>
    obtain ⟨host', command'⟩ := c'
    obtain ⟨host, command⟩ := c
    obtain ⟨mimics, rfl⟩ := first
    have step := attempt_mirrors mimics alike h fuel command'
    simp only [carryOut]
    generalize s'.attempt host' fuel command' w' = q' at step ⊢
    generalize s.attempt host fuel command' w = q at step ⊢
    cases step with
    | going hr => exact ⟨rfl, hr.session, hr.world⟩
    | ended outcome alike₁ h₁ =>
      obtain ⟨outcomes, session, world⟩ := ih alike₁ h₁
      exact ⟨congrArg _ outcomes, session, world⟩

def recorded (commands : List (Host σ × Command)) : List (Host (σ × List Request) × Command) :=
  commands.map fun (host, command) => (host.recorded, command)

def requests (fuel : Nat) (commands : List (Host σ × Command)) (s : Session) (w : World σ) :
    List Request :=
  (s.carryOut fuel (recorded commands) w.recording).world.host.2

end Session

/-! What commands leave as it was made. -/

def Session.terms (s : Session) : Container × Option Nat × Option Handle × CallContext :=
  (s.script, s.maxTicks, Exec.setting s.machine)

theorem Run.terms_tick (host : Host σ) (r : Run σ) :
    (r.tick host).session.terms = r.session.terms := by
  have kept := Machine.setting_step r.session.script host r.session.machine r.world
  have ticked := r.ticked host
  generalize r.tick host = p at ticked ⊢
  cases ticked with
  | codeEnd | spent => rfl
  | back m w _ _ hstep | onward m w _ _ hstep | halted m w _ _ hstep | failed _ m w _ _ hstep =>
    rw [hstep] at kept
    change (r.session.script, r.session.maxTicks, Exec.setting m) = _
    rw [Session.terms, ← kept]

theorem Progress.terms_advance (host : Host σ) (n : Nat) (p : Progress σ) :
    (p.advance host n).session.terms = p.session.terms := by
  have kept (r : Run σ) (h : (Progress.going r).session.terms = p.session.terms) :
      (r.tick host).session.terms = p.session.terms := (r.terms_tick host).trans h
  exact advance_preserves (P := fun q => q.session.terms = p.session.terms) kept rfl n

theorem Session.terms_runFrom (s : Session) (w : World σ) (address : Nat)
    (prepare : Machine → Machine) (h : ∀ m, Exec.setting (prepare m) = Exec.setting m) :
    (s.runFrom w address prepare).session.terms = s.terms := by
  rw [runFrom]
  split
  · change (s.script, s.maxTicks, Exec.setting (prepare _)) = _
    rw [h]
    rfl
  · rfl

inductive Reached (script : Container) (owner : Option Handle) (config : Config) :
    Session → Prop where
  | new : Reached script owner config (.new script owner config)
  | obeyed {σ : Type} {host : Host σ} {fuel : Nat} {command : Command} {s s' : Session}
      {w w' : World σ} {outcome : Outcome} : Reached script owner config s →
      s.obey host fuel command w = some (outcome, s', w') → Reached script owner config s'

theorem Session.attempt_cases (host : Host σ) (fuel : Nat) (command : Command) (s : Session)
    (w : World σ) :
    (∃ outcome s₁ w₁, s.begin command w = .declined outcome s₁ w₁ ∧
      s.attempt host fuel command w = .ended outcome s₁ w₁) ∨
    ∃ p, s.begin command w = .started p ∧
      ((∃ r, p.advance host fuel = .going r ∧ s.attempt host fuel command w = .going r) ∨
        ∃ outcome s₁ w₁, p.advance host fuel = .ended outcome s₁ w₁ ∧
          s.attempt host fuel command w = .ended outcome (s₁.conclude command outcome w₁).2.1
            (s₁.conclude command outcome w₁).2.2) := by
  simp only [attempt]
  cases s.begin command w with
  | declined outcome s₁ w₁ => exact .inl ⟨outcome, s₁, w₁, rfl, rfl⟩
  | started p =>
    refine .inr ⟨p, rfl, ?_⟩
    simp only
    cases p.advance host fuel with
    | going r => exact .inl ⟨r, rfl, rfl⟩
    | ended outcome s₁ w₁ => exact .inr ⟨outcome, s₁, w₁, rfl, rfl⟩

theorem Session.obey_cases {host : Host σ} {fuel : Nat} {command : Command} {s s' : Session}
    {w w' : World σ} {outcome : Outcome} (h : s.obey host fuel command w = some (outcome, s', w')) :
    s.begin command w = .declined outcome s' w' ∨
    ∃ p s₁ w₁, s.begin command w = .started p ∧ p.advance host fuel = .ended outcome s₁ w₁ ∧
      s₁.conclude command outcome w₁ = (outcome, s', w') := by
  rw [obey] at h
  cases hbegin : s.begin command w with
  | declined outcome₁ s₁ w₁ =>
    rw [hbegin] at h
    cases h
    exact .inl rfl
  | started p =>
    rw [hbegin] at h
    cases hp : p.advance host fuel with
    | going r =>
      simp only [hp] at h
      contradiction
    | ended outcome₁ s₁ w₁ =>
      simp only [hp, Option.some.injEq] at h
      obtain rfl : outcome₁ = outcome := congrArg Prod.fst h
      exact .inr ⟨p, s₁, w₁, rfl, hp, h⟩

theorem Session.machine_discardResult (s : Session) (w : World σ) :
    (s.discardResult w).1.machine = { s.machine with data := s.machine.data.tail } := by
  rw [discardResult]
  split
  · rename_i hdata
    simp only [hdata, List.tail_nil]
    rw [← hdata]
  · rename_i hdata
    simp only [hdata, List.tail_cons]

theorem Session.machine_conclude (command : Command) (outcome : Outcome) (s : Session)
    (w : World σ) :
    (s.conclude command outcome w).2.1.machine =
      settled command { s.machine with data := s.machine.data.tail } := by
  rw [← s.machine_discardResult w]
  rfl

theorem Session.terms_conclude (command : Command) (outcome : Outcome) (s : Session)
    (w : World σ) :
    (s.conclude command outcome w).2.1.terms =
      match command with
      | .setUp => s.terms
      | .call _ _ => (s.script, s.maxTicks, s.machine.owner, {}) := by
  simp only [conclude, discardResult]
  cases s.machine.data <;> cases command <;> rfl

theorem Session.terms_obey {host : Host σ} {fuel : Nat} {command : Command} {s s' : Session}
    {w w' : World σ} {outcome : Outcome} (idle : s.machine.context = {})
    (h : s.obey host fuel command w = some (outcome, s', w')) : s'.terms = s.terms := by
  have begun := beginning command s w
  rcases obey_cases h with hbegin | ⟨p, s₁, w₁, hbegin, hp, hconclude⟩
  · rw [hbegin] at begun
    cases begun with
    | alreadyInitialized initialized => rfl
    | noSuchProcedure procedure context hprocedure => rfl
  · have ran := p.terms_advance host fuel
    have concluded := s₁.terms_conclude command outcome w₁
    rw [hp] at ran
    change s₁.terms = p.session.terms at ran
    rw [hconclude] at concluded
    rw [hbegin] at begun
    rw [concluded]
    cases begun with
    | setUp fresh => exact ran.trans (terms_runFrom s _ 0 id fun _ => rfl)
    | call procedure context p hprocedure =>
      have hterms := ran.trans
        (terms_runFrom (s.told context) _ p.body.toNat prepareCall fun _ => rfl)
      simp only [terms, Exec.setting, told, Prod.mk.injEq] at hterms ⊢
      exact ⟨hterms.1, hterms.2.1, hterms.2.2.1, idle.symm⟩

theorem Reached.terms {script : Container} {owner : Option Handle} {config : Config}
    {s : Session} (h : Reached script owner config s) :
    s.terms = (script, config.maxTicks, owner, {}) := by
  induction h with
  | new => rfl
  | obeyed _ hobey ih =>
    have idle := (Prod.mk.inj (Prod.mk.inj (Prod.mk.inj ih).2).2).2
    exact (Session.terms_obey idle hobey).trans ih

end ScriptMachine
