import ScriptMachine.Proofs.Code.Assembling
import ScriptMachine.Proofs.Container.Drafting
import ScriptMachine.Proofs.Host.Variables
import ScriptMachine.Proofs.Session.Agreeing

/-!
# Scripts that ask for variables alone

Cut down to the requests for variables, every host that keeps variables is mimicked by these
variables themselves. So a script that makes no other requests cannot tell two such hosts apart.
-/

namespace ScriptMachine

variable {σ τ : Type}

structure Report.Shares (view' : τ → Variables) (view : σ → Variables) (a' : Report τ)
    (a : Report σ) : Prop where
  outcomes : a'.outcomes = a.outcomes
  data : a'.session.machine.data = a.session.machine.data
  calls : a'.session.machine.calls = a.session.machine.calls
  locals : a'.session.machine.locals = a.session.machine.locals
  held : view' a'.world.host = view a.world.host

theorem Report.Mirrors.shares {view' : τ → Variables} {view : σ → Variables} {a' : Report τ}
    {a : Report σ} {b : Report Variables} (h' : a'.Mirrors view' b) (h : a.Mirrors view b) :
    a'.Shares view' view a := by
  obtain ⟨_, _, _, hmachine'⟩ := h'.session.machine
  obtain ⟨_, _, _, hmachine⟩ := h.session.machine
  constructor
  · rw [h'.outcomes, h.outcomes]
  · rw [hmachine', hmachine]
  · rw [hmachine', hmachine]
  · rw [hmachine', hmachine]
  · rw [h'.world.host, h.world.host]

theorem Session.carryOut_shares {view' : τ → Variables} {view : σ → Variables} {host' : Host τ}
    {host : Host σ} (keeps' : host'.Keeps view') (keeps : host.Keeps view) {w' : World τ}
    {w : World σ} (held : view' w'.host = view w.host) (dice : w'.dice = w.dice) {fuel : Nat}
    {commands : List Command} {s : Session}
    (only : ∀ q ∈ s.requests fuel (commands.map (host, ·)) w, q.onVariable = true) :
    s.requests fuel (commands.map (host', ·)) w' = s.requests fuel (commands.map (host, ·)) w ∧
      (s.carryOut fuel (commands.map (host', ·)) w').Shares view' view
        (s.carryOut fuel (commands.map (host, ·)) w) := by
  have same' : w'.Mirrors view' { host := view w.host, dice := w.dice } := ⟨held, dice⟩
  have same : w.Mirrors view { host := view w.host, dice := w.dice } := ⟨rfl, rfl⟩
  obtain ⟨carried, asked⟩ := carryOut_agrees (host.agrees_limitedTo Request.onVariable) only
  have between : s.requests fuel (commands.map (host'.limitedTo Request.onVariable, ·)) w' =
      s.requests fuel (commands.map (host, ·)) w := by
    rw [requests_mirrors keeps'.mimics same', ← requests_mirrors keeps.mimics same, asked]
  obtain ⟨carried', asked'⟩ :=
    carryOut_agrees (host'.agrees_limitedTo Request.onVariable).symm (by rwa [between])
  have run' := carryOut_mirrors (forall₂_mimics keeps'.mimics commands) s.alike_refl same' fuel
  have run := carryOut_mirrors (forall₂_mimics keeps.mimics commands) s.alike_refl same fuel
  rw [← carried'] at run'
  rw [carried] at run
  exact ⟨asked'.trans between, run'.shares run⟩

/-- The two hosts are one store of variables. From new on each answers every sequence of requests
for variables by what was written and exported before, so both answer alike. A script whose
commands ask for nothing but variables makes the same requests on either host, with the same
outcomes, stacks and local variables, and leaves the same variables behind. -/
theorem hosts_share_store :
    Sandbox.host.IsStore {} ∧ Console.host.IsStore {} ∧
    (∀ done : List Request, (∀ q ∈ done, q.onVariable = true) → ∀ r, r.onVariable = true →
      (Sandbox.host.answer r (Sandbox.host.after done {})).1 =
        (Console.host.answer r (Console.host.after done {})).1) ∧
    ∀ (s : Session) (commands : List Command) (fuel : Nat) (dice : Dice) (log log' : Log),
      let sandbox : World Sandbox := { host := {}, dice, log }
      let console : World Console := { host := {}, dice, log := log' }
      let inSandbox := commands.map (Sandbox.host, ·)
      let inConsole := commands.map (Console.host, ·)
      (∀ q ∈ s.requests fuel inSandbox sandbox, q.onVariable = true) →
        s.requests fuel inConsole console = s.requests fuel inSandbox sandbox ∧
        (s.carryOut fuel inConsole console).Shares Console.held Sandbox.held
          (s.carryOut fuel inSandbox sandbox) := by
  have sandboxNew : Sandbox.held {} = fun _ => none := by funext c; cases c <;> rfl
  have consoleNew : Console.held {} = fun _ => none := by funext c; cases c <;> rfl
  have sandbox := Sandbox.host_keeps.isStore sandboxNew
  have console := Console.host_keeps.isStore consoleNew
  refine ⟨sandbox, console, fun done only r on => ?_, ?_⟩
  · rw [sandbox.replies done only r on, console.replies done only r on]
  · intro s commands fuel dice log log' _ _ _ _ only
    exact Session.carryOut_shares Console.host_keeps Sandbox.host_keeps
      (consoleNew.trans sandboxNew.symm) rfl only

def savingScript : Container where
  name := "save"
  code :=
    let startup := Block.ofSteps [.int 3, .int 7, .plain .setGlobalVar, .text 6, .plain .exportVar,
      .text 6, .plain .fetchExternal, .int 3, .plain .globalVar, .plain .exitProg]
    (Draft.ofSteps [.header (startup.assemble 0), .identifier "door"]).build.toArray
  procedures := #[]
  identifiers := [⟨6, "door"⟩]
  strings := []

theorem saving_hosts_share_store :
    (Console.host.answer (.fetchExternal "door")
      (Console.host.after [.storeExternal "door" (.int 2), .exportVar "door"] {})).1 =
        .ok (.int 2) ∧
    Container.decode "save" savingScript.code = .ok savingScript ∧
    let session := Session.new savingScript none {}
    let commands := [Command.setUp].map (Console.host, ·)
    (session.requests 10 commands { host := {} }).map Request.cell? =
        [some (.global 3), some (.external "door"), some (.external "door"), some (.global 3)] ∧
      (session.carryOut 10 commands { host := {} }).outcomes = [.completed] ∧
      (session.carryOut 10 commands { host := {} }).session.machine.data.map Value.int? =
        [some 0] := by
  obtain ⟨-, store, -, scripts⟩ := hosts_share_store
  have only : ∀ q ∈ (Session.new savingScript none {}).requests 10
      ([Command.setUp].map (Sandbox.host, ·)) { host := {} }, q.onVariable = true := by
    decide +kernel
  obtain ⟨requests, shares⟩ := scripts (.new savingScript none {}) [.setUp] 10 ⟨id, 0⟩ {} {} only
  refine ⟨store.replies _ (by decide) (.fetchExternal "door") rfl, by decide +kernel, ?_⟩
  intro session commands
  rw [requests, shares.outcomes, shares.data]
  decide +kernel

end ScriptMachine
