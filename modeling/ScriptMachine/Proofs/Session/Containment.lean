import ScriptMachine.Host.Refusing
import ScriptMachine.Proofs.Code.Assembling
import ScriptMachine.Proofs.Container.Drafting
import ScriptMachine.Proofs.Session.History

/-!
# Faults are contained

After a run that was abandoned the session is as good as a new one: nothing is left on its
stacks and its registers, and whatever it is told next it does as a new session would that
has only the local variables and the two flags from before.
-/

namespace ScriptMachine

variable {σ : Type}

structure Machine.Unframed (m : Machine) : Prop where
  calls : m.calls = []
  frameBase : m.frameBase = 0
  critical : m.critical = false

theorem Machine.unframed_resetFrames (m : Machine) : m.resetFrames.Unframed := ⟨rfl, rfl, rfl⟩

/-- What a run comes to. It goes on, or it is completed, or the frames are cleared after a
halt or a fault, and after a fault all the rest, too. -/
def Progress.Contained : Progress σ → Prop
  | .going _ | .ended .completed _ _ => True
  | .ended .halted s _ => s.machine.Unframed
  | .ended (.aborted _) s _ =>
    s.machine.data = [.int 0] ∧ s.machine.globalsBase = 0 ∧ s.machine.Unframed
  | .ended .noSuchProcedure _ _ | .ended .alreadyInitialized _ _ => False

theorem Run.contained_abandon (s : Session) (w : World σ) (fault : Fault) :
    (abandon s w fault).Contained :=
  ⟨rfl, rfl, Machine.unframed_resetFrames _⟩

theorem Run.contained_tick (host : Host σ) (r : Run σ) : (r.tick host).Contained := by
  have ticked := r.ticked host
  generalize r.tick host = p at ticked ⊢
  cases ticked with
  | codeEnd | back | onward => trivial
  | halted => exact Machine.unframed_resetFrames _
  | spent | failed => exact contained_abandon ..

theorem Progress.contained_advance (host : Host σ) {p : Progress σ} (h : p.Contained) (n : Nat) :
    (p.advance host n).Contained :=
  advance_preserves (fun r _ => r.contained_tick host) h n

theorem Session.contained_runFrom (s : Session) (w : World σ) (address : Nat)
    (prepare : Machine → Machine) : (s.runFrom w address prepare).Contained := by
  rw [runFrom]
  split
  · trivial
  · exact Run.contained_abandon ..

theorem Session.contained_started {command : Command} {s : Session} {w : World σ}
    {p : Progress σ} (h : s.begin command w = .started p) : p.Contained := by
  have begun := beginning command s w
  rw [h] at begun
  cases begun <;> exact contained_runFrom ..

theorem Session.data_settled (command : Command) (m : Machine) :
    (settled command m).data = m.data := by
  cases command <;> rfl

theorem Session.globalsBase_settled (command : Command) (m : Machine) :
    (settled command m).globalsBase = m.globalsBase := by
  cases command <;> rfl

theorem Session.unframed_conclude {command : Command} {outcome : Outcome} {s : Session}
    {w : World σ} :
    (s.conclude command outcome w).2.1.machine.Unframed ↔ s.machine.Unframed := by
  rw [machine_conclude]
  constructor
  · intro h
    cases command <;> exact ⟨h.calls, h.frameBase, h.critical⟩
  · intro h
    cases command <;> exact ⟨h.calls, h.frameBase, h.critical⟩

structure Session.Blank (s : Session) : Prop where
  data : s.machine.data = []
  globalsBase : s.machine.globalsBase = 0
  unframed : s.machine.Unframed
  status : s.status = .idle

theorem Session.blank_of_aborted {host : Host σ} {fuel : Nat} {command : Command}
    {s s' : Session} {w w' : World σ} {fault : Fault}
    (h : s.attempt host fuel command w = .ended (.aborted fault) s' w') : s'.Blank := by
  rcases attempt_cases host fuel command s w with
    ⟨outcome, s₁, w₁, hbegin, hattempt⟩ | ⟨p, hbegin, ⟨r, hp, hattempt⟩ |
      ⟨outcome, s₁, w₁, hp, hattempt⟩⟩
  · rw [hattempt] at h
    cases h
    have begun := beginning command s w
    rw [hbegin] at begun
    cases begun
  · rw [hattempt] at h
    contradiction
  · have contained := Progress.contained_advance host (contained_started hbegin) fuel
    rw [hattempt] at h
    rw [hp] at contained
    cases h
    obtain ⟨hdata, hglobals, unframed⟩ := contained
    have machine := machine_conclude command (.aborted fault) s₁ w₁
    refine ⟨?_, ?_, unframed_conclude.mpr unframed, rfl⟩
    · rw [machine, data_settled, hdata]
      rfl
    · rw [machine, globalsBase_settled, hglobals]

def Session.renewed (fresh used : Session) : Session :=
  { fresh with machine := { fresh.machine with
      locals := used.machine.locals
      initialized := used.machine.initialized
      overrides := used.machine.overrides } }

theorem Session.Blank.alike_renewed {script : Container} {owner : Option Handle}
    {config : Config} {s : Session} (blank : s.Blank)
    (terms : s.terms = (script, config.maxTicks, owner, {})) :
    s.Alike ((Session.new script owner config).renewed s) := by
  simp only [Session.terms, Exec.setting, Prod.mk.injEq] at terms
  obtain ⟨hscript, hticks, howner, hcontext⟩ := terms
  refine ⟨hscript.symm, hticks.symm, 0, 0, 0, ?_⟩
  obtain ⟨hdata, hglobals, ⟨hcalls, hbase, hcritical⟩, -⟩ := blank
  simp only [renewed, new, Machine.new, hdata, hglobals, hcalls, hbase, hcritical, howner, hcontext]

theorem Session.Alike.carryOut {s s' : Session} (alike : s.Alike s') (ticks : Nat)
    (commands : List (Host σ × Command)) (w : World σ) :
    Report.Mirrors id (s'.carryOut ticks commands w) (s.carryOut ticks commands w) := by
  apply Session.carryOut_mirrors _ alike w.mirrors_self
  exact List.forall₂_same.mpr fun c _ => ⟨c.1.mimics_self, rfl⟩

/-- Contain and continue. After a command that was aborted the session has nothing left of
it, and goes on as a new session would with its local variables and flags: for all further
commands, however far the last of them has come, there are the same outcomes, the same
requests to the hosts, the same data stack and the same local variables. -/
theorem continue_after_abort {script : Container} {owner : Option Handle} {config : Config}
    {host : Host σ} {fuel : Nat} {command : Command} {s s' : Session} {w w' : World σ}
    {fault : Fault} (reached : Reached script owner config s)
    (aborted : s.obey host fuel command w = some (.aborted fault, s', w')) :
    s'.Blank ∧ s'.machine.context = {} ∧
    ∀ {τ : Type} (ticks : Nat) (commands : List (Host τ × Command)) (world : World τ),
      let fresh := (Session.new script owner config).renewed s'
      let after := s'.carryOut ticks commands world
      let afresh := fresh.carryOut ticks commands world
      after.outcomes = afresh.outcomes ∧
      s'.requests ticks commands world = fresh.requests ticks commands world ∧
      after.world.host = afresh.world.host ∧ after.world.dice = afresh.world.dice ∧
      after.session.machine.data = afresh.session.machine.data ∧
      after.session.machine.locals = afresh.session.machine.locals := by
  have blank := Session.blank_of_aborted (Session.obey_eq_some_iff.mp aborted)
  have terms := (Reached.obeyed reached aborted).terms
  have context : s'.machine.context = {} := (Prod.mk.inj (Prod.mk.inj (Prod.mk.inj terms).2).2).2
  refine ⟨blank, context, ?_⟩
  intro τ ticks commands world fresh after afresh
  have alike : s'.Alike fresh := blank.alike_renewed terms
  have mirrors : Report.Mirrors id afresh after := alike.carryOut ticks commands world
  have requests := (alike.carryOut ticks (Session.recorded commands) world.recording).world.host
  obtain ⟨position, opcode, opcodeOffset, hmachine⟩ := mirrors.session.machine
  refine ⟨mirrors.outcomes.symm, (congrArg Prod.snd requests).symm, mirrors.world.host.symm,
    mirrors.world.dice.symm, ?_, ?_⟩
  · rw [hmachine]
  · rw [hmachine]

def droppingScript : Container where
  name := "drop"
  code :=
    let body := Block.ofSteps [.plain .pop, .plain .pop]
    (Draft.ofSteps [.procedure { name := "drop", body }]).build.toArray
  procedures := #[⟨"drop", ⟨0⟩, 0, 0, 90, 0⟩]
  identifiers := [⟨6, "drop"⟩]
  strings := []

theorem continue_after_drop :
    Container.decode "drop" droppingScript.code = .ok droppingScript ∧
    Reached droppingScript none {} (.new droppingScript none {}) ∧
    ∃ s' w', (Session.new droppingScript none {}).obey Refusing.host 2 (.call "drop" {})
        { host := () } = some (.aborted .stackUnderflow, s', w') ∧
      s'.Blank ∧
      (s'.carryOut 2 [(Refusing.host, .call "drop" {})] { host := () }).outcomes =
        (((Session.new droppingScript none {}).renewed s').carryOut 2
          [(Refusing.host, .call "drop" {})] { host := () }).outcomes := by
  have outcome : ((Session.new droppingScript none {}).obey Refusing.host 2 (.call "drop" {})
      { host := () }).map (·.1) = some (.aborted .stackUnderflow) := by decide +kernel
  obtain ⟨⟨_, s', w'⟩, aborted, rfl⟩ := Option.map_eq_some_iff.mp outcome
  obtain ⟨blank, -, continues⟩ := continue_after_abort .new aborted
  exact ⟨by decide +kernel, .new, s', w', aborted, blank, (continues 2 _ { host := () }).1⟩

end ScriptMachine
