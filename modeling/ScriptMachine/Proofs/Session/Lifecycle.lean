import ScriptMachine.Proofs.Code.Assembling
import ScriptMachine.Proofs.Container.Drafting
import ScriptMachine.Proofs.Session.Asking
import ScriptMachine.Proofs.Session.Memory

/-!
# The life of a session

What the commands of a session have come to says what state it is in. Startup code runs at
most once. It is skipped where a call has marked the session as initialized before.
-/

namespace ScriptMachine

variable {σ : Type}

def Outcome.ran : Outcome → Bool
  | .completed | .halted | .aborted _ => true
  | .noSuchProcedure | .alreadyInitialized => false

def Outcome.leads (status : Status) : Outcome → Status
  | .completed | .aborted _ => .idle
  | .halted => .halted
  | .noSuchProcedure | .alreadyInitialized => status

namespace Session

inductive Ending (host : Host σ) (fuel : Nat) (s : Session) (w : World σ) :
    Command → Outcome → Session → World σ → Prop where
  | alreadyInitialized : s.machine.initialized = true →
      Ending host fuel s w .setUp .alreadyInitialized s w
  | noSuchProcedure (procedure : String) (context : CallContext) :
      s.script.procedure? procedure = none →
      Ending host fuel s w (.call procedure context) .noSuchProcedure s.cleared
        (w.note (.noSuchProcedure s.script.name procedure))
  | ran (command : Command) (p : Progress σ) (outcome : Outcome) (s₁ s' : Session)
      (w₁ w' : World σ) : s.begin command w = .started p →
      p.advance host fuel = .ended outcome s₁ w₁ → outcome.ran = true →
      s₁.conclude command outcome w₁ = (outcome, s', w') →
      Ending host fuel s w command outcome s' w'

variable {host : Host σ} {fuel : Nat} {command : Command} {s s' : Session} {w w' : World σ}
  {outcome : Outcome}

theorem ending (h : s.obey host fuel command w = some (outcome, s', w')) :
    Ending host fuel s w command outcome s' w' := by
  rcases obey_cases h with hbegin | ⟨p, s₁, w₁, hbegin, hp, hconclude⟩
  · have begun := beginning command s w
    rw [hbegin] at begun
    cases begun with
    | alreadyInitialized initialized => exact .alreadyInitialized initialized
    | noSuchProcedure procedure context missing => exact .noSuchProcedure procedure context missing
  · have contained := Progress.contained_advance host (contained_started hbegin) fuel
    rw [hp] at contained
    have ran : outcome.ran = true := by
      cases outcome <;> first | rfl | exact contained.elim
    exact .ran command p outcome s₁ s' w₁ w' hbegin hp ran hconclude

theorem fresh_of_started {p : Progress σ} (h : s.begin .setUp w = .started p) :
    s.machine.initialized = false := by
  have begun := beginning .setUp s w
  rw [h] at begun
  cases begun
  assumption

theorem status_obey (h : s.obey host fuel command w = some (outcome, s', w')) :
    s'.status = outcome.leads s.status := by
  cases ending h with
  | alreadyInitialized | noSuchProcedure => rfl
  | ran _ p _ s₁ _ w₁ _ _ _ ran hconclude =>
    have status : (s₁.conclude command outcome w₁).2.1.status =
        if outcome = .halted then .halted else .idle := rfl
    rw [hconclude] at status
    rw [status]
    cases outcome <;> first | rfl | contradiction

theorem requests_of_declined {s₁ : Session} {w₁ : World σ}
    (h : s.begin command w = .declined outcome s₁ w₁) :
    s.requests fuel [(host, command)] w = [] := by
  rw [requests_eq, performed, h]
  rfl

theorem obey_alreadyInitialized
    (h : s.obey host fuel command w = some (.alreadyInitialized, s', w')) :
    s' = s ∧ w' = w ∧ s.requests fuel [(host, command)] w = [] := by
  cases ending h with
  | alreadyInitialized initialized =>
    have declined : s.begin .setUp w = .declined .alreadyInitialized s w := if_pos initialized
    exact ⟨rfl, rfl, requests_of_declined declined⟩
  | ran => contradiction

theorem obey_noSuchProcedure
    (h : s.obey host fuel command w = some (.noSuchProcedure, s', w')) :
    s' = s.cleared ∧ w'.host = w.host ∧ w'.dice = w.dice ∧
      s.requests fuel [(host, command)] w = [] := by
  cases ending h with
  | noSuchProcedure procedure context missing =>
    have declined : s.begin (.call procedure context) w = .declined .noSuchProcedure s.cleared
        (w.note (.noSuchProcedure s.script.name procedure)) := by
      simp only [begin, missing]
      rfl
    exact ⟨rfl, rfl, rfl, requests_of_declined declined⟩
  | ran => contradiction

end Session

structure Deed where
  command : Command
  performed : List Instruction
  outcome : Outcome

namespace Deed

/-- It is no startup if the session was initialized already. -/
def startsUp (d : Deed) : Bool :=
  match d.command with
  | .setUp => d.outcome ≠ .alreadyInitialized
  | .call _ _ => false

def Initializes (d : Deed) : Prop :=
  d.command = .setUp ∨ ∃ i ∈ d.performed, i.opcode = .exitProg

end Deed

inductive Obeyed : Session → List Deed → Session → Prop where
  | nil (s : Session) : Obeyed s [] s
  | snoc {σ : Type} {host : Host σ} {fuel : Nat} {command : Command} {s s₁ s' : Session}
      {w w' : World σ} {outcome : Outcome} {deeds : List Deed} : Obeyed s deeds s₁ →
      s₁.obey host fuel command w = some (outcome, s', w') →
      Obeyed s (deeds ++ [⟨command, s₁.performed host fuel command w, outcome⟩]) s'

def lastRan (deeds : List Deed) : Option Outcome :=
  ((deeds.map (·.outcome)).filter Outcome.ran).getLast?

theorem initialized_obey {host : Host σ} {fuel : Nat} {command : Command} {s s' : Session}
    {w w' : World σ} {outcome : Outcome}
    (h : s.obey host fuel command w = some (outcome, s', w')) :
    s'.machine.initialized = true ↔ s.machine.initialized = true ∨
      (Deed.mk command (s.performed host fuel command w) outcome).Initializes := by
  have memory : s'.machine.initialized = _ := congrArg Memory.initialized (Session.memory_obey h)
  rw [memory, Deed.Initializes]
  cases command with
  | setUp => simp [Command.closes]
  | call procedure context =>
    rw [Command.closes, initialized_remembered]
    simp [Command.opens, Machine.memory]

theorem startsUp_obey {host : Host σ} {fuel : Nat} {command : Command} {s s' : Session}
    {w w' : World σ} {outcome : Outcome}
    (h : s.obey host fuel command w = some (outcome, s', w'))
    (starts : (Deed.mk command (s.performed host fuel command w) outcome).startsUp = true) :
    s.machine.initialized = false ∧ s'.machine.initialized = true := by
  cases command with
  | call procedure context => contradiction
  | setUp =>
    refine ⟨?_, (initialized_obey h).mpr (.inr (.inl rfl))⟩
    cases Session.ending h with
    | alreadyInitialized => contradiction
    | ran _ p _ _ _ _ _ hbegin => exact Session.fresh_of_started hbegin

theorem lastRan_snoc (deeds : List Deed) (d : Deed) :
    lastRan (deeds ++ [d]) = if d.outcome.ran then some d.outcome else lastRan deeds := by
  rw [lastRan, List.map_append, List.filter_append, List.map_singleton, List.filter_singleton]
  cases d.outcome.ran with
  | true => exact List.getLast?_concat
  | false =>
    rw [Bool.cond_false, List.append_nil]
    rfl

theorem lastRan_eq_none {deeds : List Deed} :
    lastRan deeds = none ↔ ∀ d ∈ deeds, d.outcome.ran = false := by
  simp [lastRan]

theorem Outcome.leads_of_ran {outcome : Outcome} (ran : outcome.ran = true)
    (status status' : Status) : outcome.leads status = outcome.leads status' := by
  cases outcome <;> first | rfl | contradiction

theorem Outcome.leads_of_not_ran {outcome : Outcome} (quiet : outcome.ran = false)
    (status : Status) : outcome.leads status = status := by
  cases outcome <;> first | rfl | contradiction

namespace Obeyed

variable {s s' : Session} {deeds : List Deed}

theorem status_eq (h : Obeyed s deeds s') :
    s'.status = ((lastRan deeds).map (Outcome.leads s.status)).getD s.status := by
  induction h with
  | nil s => rfl
  | @snoc _ _ _ _ s s₁ s' _ _ outcome deeds _ hobey ih =>
    rw [Session.status_obey hobey, lastRan_snoc]
    cases ran : outcome.ran with
    | true => exact Outcome.leads_of_ran ran _ _
    | false => rw [Outcome.leads_of_not_ran ran, ih, if_neg Bool.false_ne_true]

theorem initialized_iff (h : Obeyed s deeds s') :
    s'.machine.initialized = true ↔
      s.machine.initialized = true ∨ ∃ d ∈ deeds, d.Initializes := by
  induction h with
  | nil s => simp
  | snoc _ hobey ih =>
    rw [initialized_obey hobey, ih]
    simp only [List.mem_append, List.mem_singleton, or_and_right, exists_or, exists_eq_left,
      or_assoc]

theorem exists_ran (h : Obeyed s deeds s') (fresh : s.machine.initialized = false)
    (initialized : s'.machine.initialized = true) : lastRan deeds ≠ none := by
  induction h with
  | nil s =>
    rw [fresh] at initialized
    contradiction
  | snoc _ hobey ih =>
    rw [lastRan_snoc]
    cases Session.ending hobey with
    | alreadyInitialized before => exact ih fresh before
    | noSuchProcedure => exact ih fresh initialized
    | ran _ _ _ _ _ _ _ _ _ ran =>
      rw [if_pos ran]
      exact nofun

theorem exists_ran_of_declined (h : Obeyed s deeds s') (fresh : s.machine.initialized = false)
    {d : Deed} (hd : d ∈ deeds) (declined : d.outcome = .alreadyInitialized) :
    lastRan deeds ≠ none := by
  induction h with
  | nil s => contradiction
  | snoc before hobey ih =>
    rw [lastRan_snoc]
    split
    · exact nofun
    · rcases List.mem_append.mp hd with hd | hd
      · exact ih fresh hd
      · -- The session declined since it was initialized, so code had run before.
        obtain rfl := List.mem_singleton.mp hd
        obtain rfl := declined
        cases Session.ending hobey with
        | alreadyInitialized initialized => exact before.exists_ran fresh initialized
        | ran _ _ _ _ _ _ _ _ _ ran => contradiction

theorem lastRan_eq_none_iff (h : Obeyed s deeds s') (fresh : s.machine.initialized = false) :
    lastRan deeds = none ↔ ∀ d ∈ deeds, d.outcome = .noSuchProcedure := by
  constructor
  · intro hnone d hd
    have quiet := lastRan_eq_none.mp hnone d hd
    cases houtcome : d.outcome with
    | noSuchProcedure => rfl
    | alreadyInitialized => exact absurd hnone (h.exists_ran_of_declined fresh hd houtcome)
    | completed | halted | aborted =>
      rw [houtcome] at quiet
      contradiction
  · intro missing
    refine lastRan_eq_none.mpr fun d hd => ?_
    rw [missing d hd]
    rfl

theorem startups_le (h : Obeyed s deeds s') (fresh : s.machine.initialized = false) :
    deeds.countP Deed.startsUp ≤ if s'.machine.initialized then 1 else 0 := by
  induction h with
  | nil s => exact Nat.zero_le _
  | @snoc _ host fuel command s s₁ s' w _ outcome deeds _ hobey ih =>
    have ih := ih fresh
    have kept := (initialized_obey hobey).mpr ∘ Or.inl
    rw [List.countP_append, List.countP_singleton]
    -- A startup finds the flag clear and leaves it set, and nothing clears it again.
    split
    · rename_i starts
      obtain ⟨before, after⟩ := startsUp_obey hobey starts
      rw [before] at ih
      rw [after]
      exact Nat.succ_le_succ ih
    · refine Nat.le_trans ih ?_
      split
      · rename_i before
        rw [kept before]
        exact Nat.le_refl 1
      · exact Nat.zero_le _

end Obeyed

structure Standing (deeds : List Deed) (s : Session) : Prop where
  startups : deeds.countP Deed.startsUp ≤ 1
  initialized : (∃ d ∈ deeds, d.command = .setUp) → s.machine.initialized = true
  running : s.status ≠ .running
  notInitialized : s.status = .notInitialized ↔ ∀ d ∈ deeds, d.outcome = .noSuchProcedure
  halted : s.status = .halted ↔ lastRan deeds = some .halted
  idle : s.status = .idle ↔
    (∃ d ∈ deeds, d.outcome ≠ .noSuchProcedure) ∧ lastRan deeds ≠ some .halted

variable {script : Container} {owner : Option Handle} {config : Config} {deeds : List Deed}
  {s : Session}

theorem Obeyed.status_iff (h : Obeyed (.new script owner config) deeds s) :
    s.status ≠ .running ∧ (s.status = .notInitialized ↔ lastRan deeds = none) ∧
      (s.status = .halted ↔ lastRan deeds = some .halted) ∧
      (s.status = .idle ↔ lastRan deeds ≠ none ∧ lastRan deeds ≠ some .halted) := by
  have status := h.status_eq
  cases hlast : lastRan deeds with
  | none =>
    rw [hlast] at status
    simp [status, Session.new]
  | some outcome =>
    have ran : outcome.ran = true := (List.mem_filter.mp (List.mem_of_getLast? hlast)).2
    rw [hlast] at status
    cases outcome with
    | completed | halted | aborted => simp [status, Outcome.leads]
    | noSuchProcedure | alreadyInitialized => contradiction

theorem Obeyed.standing (h : Obeyed (.new script owner config) deeds s) : Standing deeds s := by
  obtain ⟨running, notInitialized, halted, idle⟩ := h.status_iff
  have fresh := h.lastRan_eq_none_iff rfl
  have ran : lastRan deeds ≠ none ↔ ∃ d ∈ deeds, d.outcome ≠ .noSuchProcedure := by
    rw [Ne, fresh]
    push Not
    rfl
  refine ⟨?_, ?_, running, notInitialized.trans fresh, halted, ?_⟩
  · refine Nat.le_trans (h.startups_le rfl) ?_
    split <;> decide
  · rintro ⟨d, hd, setUp⟩
    exact h.initialized_iff.mpr (.inr ⟨d, hd, .inl setUp⟩)
  · rw [idle, ran]

/-- A session's life. Of its commands at most one runs startup code; once it is initialized it
stays so; its status is what the last command to run code has left. An answer given at once
changes nothing but the overrides, and these only if there is no such procedure. -/
theorem lifecycle (h : Obeyed (.new script owner config) deeds s) :
    Standing deeds s ∧
    (∀ further s', Obeyed s further s' → s.machine.initialized = true →
      s'.machine.initialized = true) ∧
    ∀ {σ : Type} (host : Host σ) (fuel : Nat) (command : Command) (w w' : World σ) (s' : Session),
      (s.obey host fuel command w = some (.alreadyInitialized, s', w') →
        s' = s ∧ w' = w ∧ s.requests fuel [(host, command)] w = []) ∧
      (s.obey host fuel command w = some (.noSuchProcedure, s', w') →
        s' = s.cleared ∧ w'.host = w.host ∧ w'.dice = w.dice ∧
        s.requests fuel [(host, command)] w = []) := by
  refine ⟨h.standing, ?_, ?_⟩
  · intro further s' hfurther initialized
    exact hfurther.initialized_iff.mpr (.inl initialized)
  · intro σ host fuel command w w' s'
    exact ⟨Session.obey_alreadyInitialized, Session.obey_noSuchProcedure⟩

def quittingScript : Container where
  name := "quit"
  code :=
    let test := Block.ofSteps [.int 42, .plain .ret]
    let quit := Block.ofSteps [.plain .exitProg]
    (Draft.ofSteps [.procedure { name := "test", body := test },
      .procedure { name := "quit", body := quit }]).build.toArray
  procedures := #[⟨"test", ⟨0⟩, 0, 0, 122, 0⟩, ⟨"quit", ⟨0⟩, 0, 0, 130, 0⟩]
  identifiers := [⟨6, "test"⟩, ⟨14, "quit"⟩]
  strings := []

theorem quit_lifecycle :
    Container.decode "quit" quittingScript.code = .ok quittingScript ∧
    ∃ deeds s, Obeyed (.new quittingScript none {}) deeds s ∧
      deeds.map (·.outcome) = [.completed, .alreadyInitialized] ∧ Standing deeds s ∧
      s.status = .idle := by
  have outcomes : (((Session.new quittingScript none {}).obey Refusing.host 4 (.call "quit" {})
      { host := () }).bind fun (outcome, s, w) => (s.obey Refusing.host 4 .setUp w).map fun r =>
        [outcome, r.1]) = some [.completed, .alreadyInitialized] := by decide +kernel
  obtain ⟨⟨called, s₁, w₁⟩, hcall, outcomes⟩ := Option.bind_eq_some_iff.mp outcomes
  obtain ⟨⟨again, s₂, w₂⟩, hsetUp, outcomes⟩ := Option.map_eq_some_iff.mp outcomes
  have history := Obeyed.snoc (Obeyed.snoc (Obeyed.nil _) hcall) hsetUp
  obtain ⟨standing, -⟩ := lifecycle history
  refine ⟨by decide +kernel, _, s₂, history, outcomes, standing, ?_⟩
  obtain ⟨rfl, rfl⟩ : called = .completed ∧ again = .alreadyInitialized := by simpa using outcomes
  exact standing.idle.mpr ⟨by simp, by simp [lastRan, Outcome.ran]⟩

/-- When startup code is skipped. What initializes a session is a first `.setUp`, or an exit
from startup code that a call performs; after calls without one the startup code still runs. -/
theorem startup_unless_exited (h : Obeyed (.new script owner config) deeds s) :
    (s.machine.initialized = true ↔ ∃ d ∈ deeds, d.Initializes) ∧
    (s.status = .notInitialized ↔
      s.machine.initialized = false ∧ ∀ d ∈ deeds, d.outcome = .noSuchProcedure) ∧
    ((∀ d ∈ deeds, d.command ≠ .setUp) →
      ∀ {σ : Type} (host : Host σ) (fuel : Nat) (w : World σ),
      ((∀ d ∈ deeds, ∀ i ∈ d.performed, i.opcode ≠ .exitProg) →
        s.begin .setUp w =
          .started (s.runFrom (w.note (.initializing s.script.name)) 0 id) ∧
        ∀ s' w', s.obey host fuel .setUp w ≠ some (.alreadyInitialized, s', w')) ∧
      ((∃ d ∈ deeds, ∃ i ∈ d.performed, i.opcode = .exitProg) →
        s.obey host fuel .setUp w = some (.alreadyInitialized, s, w))) := by
  have initialized : s.machine.initialized = true ↔ ∃ d ∈ deeds, d.Initializes := by
    rw [h.initialized_iff]
    exact or_iff_right nofun
  refine ⟨initialized, ?_, ?_⟩
  · rw [h.standing.notInitialized]
    refine ⟨fun missing => ⟨?_, missing⟩, And.right⟩
    rw [← h.lastRan_eq_none_iff rfl] at missing
    exact Bool.eq_false_iff.mpr fun initialized => h.exists_ran rfl initialized missing
  · intro calls σ host fuel w
    constructor
    · intro unexited
      have fresh : s.machine.initialized = false := by
        refine Bool.eq_false_iff.mpr fun before => ?_
        obtain ⟨d, hd, setUp | ⟨i, hi, exit⟩⟩ := initialized.mp before
        · exact calls d hd setUp
        · exact unexited d hd i hi exit
      have begun : s.begin .setUp w =
          .started (s.runFrom (w.note (.initializing s.script.name)) 0 id) := by
        rw [Session.begin, fresh]
        rfl
      refine ⟨begun, fun s' w' hobey => ?_⟩
      cases Session.ending hobey with
      | alreadyInitialized before =>
        rw [fresh] at before
        contradiction
      | ran => contradiction
    · rintro ⟨d, hd, exited⟩
      rw [Session.obey, Session.begin, if_pos (initialized.mpr ⟨d, hd, .inr exited⟩)]

theorem quit_startup_unless_exited :
    Container.decode "quit" quittingScript.code = .ok quittingScript ∧
    ∃ deeds s, Obeyed (.new quittingScript none {}) deeds s ∧
      (∀ d ∈ deeds, d.command ≠ .setUp) ∧
      (∃ d ∈ deeds, ∃ i ∈ d.performed, i.opcode = .exitProg) ∧
      s.obey Refusing.host 4 .setUp { host := () } =
        some (.alreadyInitialized, s, { host := () }) := by
  let fresh := Session.new quittingScript none {}
  let quit : Command := .call "quit" {}
  have ends : (fresh.obey Refusing.host 4 quit { host := () }).isSome := by decide +kernel
  have exited : ∃ i ∈ fresh.performed Refusing.host 4 quit { host := () },
      i.opcode = .exitProg := by decide +kernel
  obtain ⟨⟨outcome, s, w⟩, hcall⟩ := Option.isSome_iff_exists.mp ends
  have history := Obeyed.snoc (Obeyed.nil _) hcall
  let deed : Deed := ⟨quit, fresh.performed Refusing.host 4 quit { host := () }, outcome⟩
  have calls : ∀ d ∈ [deed], d.command ≠ .setUp := by simp [deed, quit]
  have exits : ∃ d ∈ [deed], ∃ i ∈ d.performed, i.opcode = .exitProg :=
    ⟨deed, List.mem_singleton_self _, exited⟩
  obtain ⟨-, -, startup⟩ := startup_unless_exited history
  exact ⟨by decide +kernel, [deed], s, history, calls, exits,
    (startup calls Refusing.host 4 { host := () }).2 exits⟩

theorem quit_skips_startup :
    Container.decode "quit" quittingScript.code = .ok quittingScript ∧
    ∃ s w s₁ w₁ s₂ w₂, (Session.new quittingScript none {}).obey Refusing.host 4
        (.call "test" {}) { host := () } = some (.completed, s, w) ∧
      s.status = .idle ∧ s.machine.initialized = false ∧
      s.obey Refusing.host 4 (.call "quit" {}) w = some (.completed, s₁, w₁) ∧
      s₁.obey Refusing.host 4 .setUp w₁ = some (.alreadyInitialized, s₂, w₂) := by
  have outcomes : (((Session.new quittingScript none {}).obey Refusing.host 4 (.call "test" {})
      { host := () }).bind fun (outcome, s, w) => (s.obey Refusing.host 4 (.call "quit" {}) w).bind
        fun (outcome₁, s₁, w₁) => (s₁.obey Refusing.host 4 .setUp w₁).map fun r =>
          (outcome, s.status, s.machine.initialized, outcome₁, r.1)) =
      some (.completed, .idle, false, .completed, .alreadyInitialized) := by decide +kernel
  obtain ⟨⟨outcome, s, w⟩, htest, outcomes⟩ := Option.bind_eq_some_iff.mp outcomes
  obtain ⟨⟨outcome₁, s₁, w₁⟩, hquit, outcomes⟩ := Option.bind_eq_some_iff.mp outcomes
  obtain ⟨⟨outcome₂, s₂, w₂⟩, hsetUp, outcomes⟩ := Option.map_eq_some_iff.mp outcomes
  simp only [Prod.mk.injEq] at outcomes
  obtain ⟨rfl, status, initialized, rfl, rfl⟩ := outcomes
  exact ⟨by decide +kernel, s, w, s₁, w₁, s₂, w₂, htest, status, initialized, hquit, hsetUp⟩

end ScriptMachine
