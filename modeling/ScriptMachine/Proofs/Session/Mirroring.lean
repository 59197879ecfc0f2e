import ScriptMachine.Proofs.Host.Recording
import ScriptMachine.Proofs.Machine.Stepping
import ScriptMachine.Session.Command

/-!
# Runs that mirror each other

What a run does is decided by the machine but for the opcode last fetched, and by the
host's answers and the draws, not by the log. So two runs that agree in this go on alike,
tick for tick. A command overwrites the position before it runs, so between commands the
position plays no part either.
-/

namespace ScriptMachine

variable {σ τ : Type} {view : τ → σ} {host' : Host τ} {host : Host σ} {w' : World τ}
  {w : World σ}

namespace Machine

theorem settleQuery_mirrors (mimics : host'.Mimics view host) (h : World.Mirrors view w' w)
    (q : Query) (m : Machine) :
    (m.settleQuery host' q w').1 = (m.settleQuery host q w).1 ∧
      World.Mirrors view (m.settleQuery host' q w').2 (m.settleQuery host q w).2 := by
  obtain ⟨hreply, hworld⟩ := h.ask mimics q.request
  simp only [settleQuery]
  generalize w'.ask host' q.request = answered' at hreply hworld ⊢
  generalize w.ask host q.request = answered at hreply hworld ⊢
  obtain ⟨reply', w₁'⟩ := answered'
  obtain ⟨reply, w₁⟩ := answered
  obtain rfl : reply' = reply := hreply
  refine ⟨rfl, ?_⟩
  cases reply' with
  | ok a => exact hworld
  | error e => exact World.Mirrors.note hworld _ _

theorem settle_mirrors (mimics : host'.Mimics view host) (h : World.Mirrors view w' w)
    (turn : Turn) (m : Machine) :
    ∃ outcome m₁ w₁' w₁, m.settle host' turn w' = (outcome, m₁, w₁') ∧
      m.settle host turn w = (outcome, m₁, w₁) ∧ World.Mirrors view w₁' w₁ := by
  cases turn with
  | next => exact ⟨.continuing, m, w', w, rfl, rfl, h⟩
  | entered p => exact ⟨.continuing, m, _, _, rfl, rfl, h.note _ _⟩
  | halt => exact ⟨.halted, m, w', w, rfl, rfl, h⟩
  | draw low high =>
    refine ⟨.continuing, m.receive (some (.int (between low high w.dice.roll))),
      { w' with dice := w'.dice.next }, { w with dice := w.dice.next }, ?_, rfl, h.host, ?_⟩
    · rw [settle, h.dice]
    · exact congrArg Dice.next h.dice
  | ask q =>
    obtain ⟨hmachine, hworld⟩ := settleQuery_mirrors mimics h q m
    refine ⟨.continuing, (m.settleQuery host q w).1, _, _, ?_, rfl, hworld⟩
    rw [settle, ← hmachine]

theorem execute_mirrors (mimics : host'.Mimics view host) (h : World.Mirrors view w' w)
    (script : Container) (code : UInt16) (m : Machine) :
    ∃ outcome m₁ w₁' w₁, m.execute script host' code w' = (outcome, m₁, w₁') ∧
      m.execute script host code w = (outcome, m₁, w₁) ∧ World.Mirrors view w₁' w₁ := by
  cases hop : Opcode.ofCode? code with
  | none =>
    rw [execute_of_none _ _ _ hop, execute_of_none _ _ _ hop]
    exact ⟨_, m, w', w, rfl, rfl, h⟩
  | some op =>
    rw [execute_of_some _ _ _ hop, execute_of_some _ _ _ hop]
    cases Exec.perform script op m with
    | ok turn m₁ => exact settle_mirrors mimics h turn m₁
    | error e m₁ => exact ⟨.failed e, m₁, w', w, rfl, rfl, h⟩

/-- A fetch overwrites all in which machines at one position can differ. Only if it fails
they still do, and then the step does. -/
theorem step_mirrors {m' m : Machine} (mimics : host'.Mimics view host)
    (h : World.Mirrors view w' w) (alike : Alike m m') (same : m'.position = m.position)
    (script : Container) :
    ∃ outcome m₁' m₁ w₁' w₁, m'.step script host' w' = (outcome, m₁', w₁') ∧
      m.step script host w = (outcome, m₁, w₁) ∧ World.Mirrors view w₁' w₁ ∧ Alike m₁ m₁' ∧
      ((∀ fault, outcome ≠ .failed fault) → m₁' = m₁) := by
  obtain ⟨position, opcode, opcodeOffset, rfl⟩ := alike
  change position = m.position at same
  subst same
  simp only [step, reader]
  cases Reader.uint16 ⟨script.code, m.position⟩ with
  | error e r =>
    -- No word is left: nothing is overwritten, and the machines still differ.
    refine ⟨_, _, { m with position := r.position }, w', w, rfl, rfl, h, ⟨_, _, _, rfl⟩, ?_⟩
    exact fun succeeds => absurd rfl (succeeds _)
  | ok code r =>
    obtain ⟨outcome, m₁, w₁', w₁, hstep', hstep, hworld⟩ :=
      execute_mirrors mimics (h.note (.executing m.position code) (.executing m.position code))
        script code { m with position := r.position, opcode := code, opcodeOffset := m.position }
    exact ⟨outcome, m₁, m₁, w₁', w₁, hstep', hstep, hworld, alike_refl m₁, fun _ => rfl⟩

end Machine

structure Session.Alike (s s' : Session) : Prop where
  script : s'.script = s.script
  maxTicks : s'.maxTicks = s.maxTicks
  machine : s.machine.Alike s'.machine

theorem Session.alike_refl (s : Session) : s.Alike s := ⟨rfl, rfl, s.machine.alike_refl⟩

structure Run.Mirrors (view : τ → σ) (r' : Run τ) (r : Run σ) : Prop where
  session : r.session.Alike r'.session
  position : r'.session.machine.position = r.session.machine.position
  world : r'.world.Mirrors view r.world
  base : r'.base = r.base
  ticks : r'.ticks = r.ticks

inductive Progress.Mirrors (view : τ → σ) : Progress τ → Progress σ → Prop where
  | going {r' : Run τ} {r : Run σ} : r'.Mirrors view r → Mirrors view (.going r') (.going r)
  | ended {s' s : Session} {w' : World τ} {w : World σ} (outcome : Outcome) :
      s.Alike s' → w'.Mirrors view w →
      Mirrors view (.ended outcome s' w') (.ended outcome s w)

theorem Progress.Mirrors.exists_ended {p' : Progress τ} {p : Progress σ}
    (h : Progress.Mirrors view p' p) (outcome : Outcome) :
    (∃ s w, p' = .ended outcome s w) ↔ ∃ s w, p = .ended outcome s w := by
  cases h with
  | going h => simp
  | ended outcome alike hworld => simp

namespace Run

theorem abandon_mirrors {s' s : Session} (alike : s.Alike s') (h : w'.Mirrors view w)
    (fault : Fault) : Progress.Mirrors view (abandon s' w' fault) (abandon s w fault) := by
  refine .ended (.aborted fault) ⟨alike.script, alike.maxTicks, ?_⟩ (h.note _ _)
  obtain ⟨position, opcode, opcodeOffset, hmachine⟩ := alike.machine
  exact ⟨position, opcode, opcodeOffset, by rw [hmachine]; rfl⟩

theorem Mirrors.atEnd {r' : Run τ} {r : Run σ} (h : r'.Mirrors view r) :
    r'.session.machine.atEnd r'.session.script.code =
      r.session.machine.atEnd r.session.script.code := by
  rw [Machine.atEnd, Machine.atEnd, Machine.reader, Machine.reader, h.position, h.session.script]

theorem Mirrors.spent {r' : Run τ} {r : Run σ} (h : r'.Mirrors view r) : r'.spent = r.spent := by
  rw [Run.spent, Run.spent, h.session.maxTicks, h.ticks]

theorem tick_mirrors (mimics : host'.Mimics view host) {r' : Run τ} {r : Run σ}
    (h : r'.Mirrors view r) : Progress.Mirrors view (r'.tick host') (r.tick host) := by
  simp only [tick, h.atEnd, h.spent]
  cases r.session.machine.atEnd r.session.script.code with
  | true => exact .ended .completed h.session h.world
  | false =>
    cases r.spent with
    | some limit => exact abandon_mirrors h.session h.world _
    | none =>
      obtain ⟨outcome, m₁', m₁, w₁', w₁, hstep', hstep, hworld, alike, equal⟩ :=
        Machine.step_mirrors mimics h.world h.session.machine h.position r.session.script
      simp only [Session.step, h.session.script, hstep', hstep]
      cases outcome with
      | continuing =>
        obtain rfl := equal nofun
        simp only [Bool.false_eq_true, ↓reduceIte]
        split
        · exact .ended .completed ⟨rfl, h.session.maxTicks, alike⟩ hworld
        · refine .going ⟨⟨rfl, h.session.maxTicks, alike⟩, rfl, hworld, h.base, ?_⟩
          exact congrArg (· + 1) h.ticks
      | halted =>
        obtain rfl := equal nofun
        refine .ended .halted ⟨rfl, h.session.maxTicks, ?_⟩ (hworld.note _ _)
        rw [h.base]
        exact Machine.alike_refl _
      | failed fault =>
        have failed : Session.Alike { r.session with machine := m₁ }
            { r'.session with script := r.session.script, machine := m₁' } :=
          ⟨rfl, h.session.maxTicks, alike⟩
        exact abandon_mirrors failed hworld fault

end Run

theorem Progress.advance_mirrors (mimics : host'.Mimics view host) {p' : Progress τ}
    {p : Progress σ} (h : p'.Mirrors view p) (n : Nat) :
    Progress.Mirrors view (p'.advance host' n) (p.advance host n) := by
  induction n generalizing p' p with
  | zero => exact h
  | succ n ih =>
    cases h with
    | going h => exact ih (Run.tick_mirrors mimics h)
    | ended outcome alike hworld => exact .ended outcome alike hworld

namespace Session

theorem runFrom_mirrors {s' s : Session} (alike : s.Alike s') (h : w'.Mirrors view w)
    (address : Nat) (prepare : Machine → Machine)
    (prepares : ∀ m opcode opcodeOffset, prepare { m with opcode, opcodeOffset } =
      { prepare m with opcode, opcodeOffset }) :
    Progress.Mirrors view (s'.runFrom w' address prepare) (s.runFrom w address prepare) := by
  rw [runFrom, runFrom, alike.script]
  split
  · obtain ⟨position, opcode, opcodeOffset, hmachine⟩ := alike.machine
    have hprepare : prepare { s'.machine with position := address } =
        { prepare { s.machine with position := address } with opcode, opcodeOffset } := by
      rw [hmachine, ← prepares]
    refine .going ⟨⟨rfl, alike.maxTicks, ?_⟩, ?_, h, ?_, rfl⟩
    · exact ⟨_, opcode, opcodeOffset, hprepare⟩
    · change (prepare { s'.machine with position := address }).position = _
      rw [hprepare]
    · rw [hmachine]
  · exact Run.abandon_mirrors alike h _

end Session

end ScriptMachine
