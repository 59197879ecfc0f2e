import ScriptMachine.Proofs.Machine.Calls
import ScriptMachine.Proofs.Machine.Padding
import ScriptMachine.Proofs.Session.Asking
import ScriptMachine.Proofs.Session.Variables

/-!
# Padding never appears

A new machine holds no padding, a command pushes none, and whatever way a run ends, what stands
in for its result is an integer. So with reliable hosts no command brings padding about.
-/

namespace ScriptMachine

variable {σ : Type} {script : Container} {host : Host σ}

namespace Machine

variable {m : Machine}

theorem unpadded_new (owner : Option Handle) (locals : Nat) : (new owner locals).Unpadded :=
  ⟨List.not_mem_nil, List.not_mem_nil, fun padding => nomatch (Array.mem_replicate.mp padding).2⟩

theorem Unpadded.unwind (h : m.Unpadded) : m.unwind.Unpadded :=
  ⟨.cons nofun List.not_mem_nil, List.not_mem_nil, h.locals⟩

theorem Unpadded.unwindHalt (h : m.Unpadded) (base : Nat) : (m.unwindHalt base).Unpadded :=
  ⟨.cons nofun (h.data.of_subset (List.drop_subset _ _)), List.not_mem_nil, h.locals⟩

end Machine

theorem Instruction.unpadded_request {i : Instruction} {request : Request}
    (h : i.machine.Unpadded) (asked : i.request? script = some request) : request.Unpadded := by
  obtain ⟨succeeds, -⟩ := Exec.maintains_perform script i.opcode i.machine h
  cases hperform : Exec.perform script i.opcode i.machine with
  | error e m =>
    rw [request?_of_error hperform] at asked
    contradiction
  | ok turn m =>
    have hturn := (succeeds turn m hperform).1
    rw [request?_of_ok hperform] at asked
    cases turn with
    | ask q =>
      obtain rfl := Option.some_inj.mp asked
      exact hturn.request
    | next | entered | halt | draw => contradiction

structure Progress.Unpadded (host : Host σ) (p : Progress σ) : Prop where
  machine : p.session.machine.Unpadded
  reliable : host.Reliable p.world.host

theorem Run.unpadded_tick {r : Run σ} (h : (Progress.going r).Unpadded host) :
    (r.tick host).Unpadded host := by
  have machine : r.session.machine.Unpadded := h.machine
  have reliable : host.Reliable r.world.host := h.reliable
  have stepped := machine.step reliable r.session.script
  have ticked := r.ticked host
  generalize r.tick host = p at ticked ⊢
  cases ticked with
  | codeEnd => exact ⟨machine, reliable⟩
  | spent => exact ⟨machine.unwind, reliable⟩
  | back m w _ _ hstep | onward m w _ _ hstep =>
    rw [hstep] at stepped
    exact ⟨stepped.1, stepped.2⟩
  | halted m w _ _ hstep =>
    rw [hstep] at stepped
    exact ⟨stepped.1.unwindHalt r.base, stepped.2⟩
  | failed fault m w _ _ hstep =>
    rw [hstep] at stepped
    exact ⟨stepped.1.unwind, stepped.2⟩

namespace Progress.Unpadded

variable {p : Progress σ}

theorem advance (h : p.Unpadded host) (n : Nat) : (p.advance host n).Unpadded host :=
  advance_preserves (fun _ => Run.unpadded_tick) h n

theorem trace (h : p.Unpadded host) (n : Nat) : ∀ i ∈ p.trace host n, i.machine.Unpadded := by
  intro i hi
  -- The run has come to the tick of this instruction with the ones before it.
  obtain ⟨before, after, htrace⟩ := List.append_of_mem hi
  obtain ⟨r, _, hr, -, hinstruction, -⟩ := exists_of_trace htrace
  have reached := (h.advance before.length).machine
  rw [hr] at reached
  obtain ⟨code, position, hmachine⟩ :=
    Machine.machine_of_instruction? (Run.machine_instruction? hinstruction)
  rw [hmachine]
  exact ⟨reached.data, reached.calls, reached.locals⟩

end Progress.Unpadded

namespace Session

variable {s : Session} {w : World σ}

theorem unpadded_runFrom (h : s.machine.Unpadded) (reliable : host.Reliable w.host)
    (address : Nat) {prepare : Machine → Machine}
    (prepared : ∀ m : Machine, m.Unpadded → (prepare m).Unpadded) :
    (s.runFrom w address prepare).Unpadded host := by
  rw [runFrom]
  split
  · exact ⟨prepared _ ⟨h.data, h.calls, h.locals⟩, reliable⟩
  · exact ⟨h.unwind, reliable⟩

theorem unpadded_begin (h : s.machine.Unpadded) (reliable : host.Reliable w.host)
    (command : Command) : (s.begin command w).progress.Unpadded host := by
  have begun := beginning command s w
  generalize s.begin command w = b at begun ⊢
  cases begun with
  | alreadyInitialized => exact ⟨h, reliable⟩
  | noSuchProcedure => exact ⟨⟨h.data, h.calls, h.locals⟩, reliable⟩
  | setUp => exact unpadded_runFrom (w := w.note _) h reliable 0 fun _ hm => hm
  | call procedure context p =>
    have told : (s.told context).machine.Unpadded := ⟨h.data, h.calls, h.locals⟩
    exact unpadded_runFrom (w := w.note _) told reliable p.body.toNat fun m hm =>
      ⟨hm.data.cons nofun, hm.calls.cons nofun, hm.locals⟩

theorem unpadded_conclude (h : s.machine.Unpadded) (command : Command) (outcome : Outcome)
    (w : World σ) : (s.conclude command outcome w).2.1.machine.Unpadded := by
  rw [machine_conclude]
  cases command <;> exact ⟨h.data.of_subset (List.tail_suffix _).subset, h.calls, h.locals⟩

theorem unpadded_attempt (h : s.machine.Unpadded) (reliable : host.Reliable w.host)
    (command : Command) (fuel : Nat) :
    (s.attempt host fuel command w).session.machine.Unpadded := by
  have ran := (unpadded_begin h reliable command).advance fuel
  rcases attempt_cases host fuel command s w with
    ⟨outcome, s₁, w₁, hbegin, hattempt⟩ | ⟨p, hbegin, going | ended⟩
  · rw [hbegin, Begun.progress, Progress.advance_ended] at ran
    rw [hattempt]
    exact ran.machine
  · obtain ⟨r, hp, hattempt⟩ := going
    rw [hbegin, Begun.progress, hp] at ran
    rw [hattempt]
    exact ran.machine
  · obtain ⟨outcome, s₁, w₁, hp, hattempt⟩ := ended
    rw [hbegin, Begun.progress, hp] at ran
    rw [hattempt]
    exact unpadded_conclude ran.machine command outcome w₁

end Session

inductive Served (script : Container) (owner : Option Handle) (config : Config) :
    Session → Prop where
  | new : Served script owner config (.new script owner config)
  | obeyed {σ : Type} {host : Host σ} {fuel : Nat} {command : Command} {s s' : Session}
      {w w' : World σ} {outcome : Outcome} : Served script owner config s →
      host.Reliable w.host → s.obey host fuel command w = some (outcome, s', w') →
      Served script owner config s'

theorem Served.unpadded {owner : Option Handle} {config : Config} {s : Session}
    (h : Served script owner config s) : s.machine.Unpadded := by
  induction h with
  | new => exact Machine.unpadded_new owner config.localCount
  | @obeyed _ _ fuel command _ _ _ _ _ _ reliable hobey ih =>
    have attempted := Session.unpadded_attempt ih reliable command fuel
    rw [Session.obey_eq_some_iff.mp hobey] at attempted
    exact attempted

/-- With reliable hosts padding never appears: not in the machine between commands, at any point
of a run or where one ends, not before or after any instruction, also a failing one, and not in
any request. -/
theorem padding_never_appears {owner : Option Handle} {config : Config} {s : Session}
    (served : Served script owner config s) {w : World σ} (reliable : host.Reliable w.host)
    (command : Command) (fuel : Nat) :
    s.machine.Unpadded ∧
      ((s.begin command w).progress.advance host fuel).session.machine.Unpadded ∧
      (s.attempt host fuel command w).session.machine.Unpadded ∧
      (∀ i ∈ s.performed host fuel command w,
        i.machine.Unpadded ∧ ∀ {τ : Type} (host : Host τ) (w : World τ), host.Reliable w.host →
          (i.machine.execute s.script host i.opcode.code w).2.1.Unpadded) ∧
      ∀ q ∈ s.requests fuel [(host, command)] w, q.Unpadded := by
  have unpadded := served.unpadded
  have begun := Session.unpadded_begin unpadded reliable command
  have performed : ∀ i ∈ s.performed host fuel command w, i.machine.Unpadded := by
    rw [Session.performed_eq]
    exact begun.trace fuel
  refine ⟨unpadded, (begun.advance fuel).machine,
    Session.unpadded_attempt unpadded reliable command fuel,
    fun i hi => ⟨performed i hi, fun _ _ reliable =>
      ((performed i hi).execute reliable s.script i.opcode.code).1⟩, ?_⟩
  intro q hq
  rw [Session.requests_eq] at hq
  obtain ⟨i, hi, asked⟩ := List.mem_filterMap.mp hq
  exact Instruction.unpadded_request (performed i hi) asked

theorem saving_padding_never_appears :
    Container.decode "save" savingScript.code = .ok savingScript ∧
    let session := Session.new savingScript none {}
    let world : World Sandbox := { host := {} }
    (session.requests 10 [(Sandbox.host, .setUp)] world).map (·.handed?.bind Value.int?) =
        [some 7, none, none, none] ∧
      (session.attempt Sandbox.host 10 .setUp world).session.machine.Unpadded ∧
      ∀ q ∈ session.requests 10 [(Sandbox.host, .setUp)] world, q.Unpadded := by
  refine ⟨by decide +kernel, ?_⟩
  intro session world
  have served : Served savingScript none {} session := .new
  have held : Sandbox.held {} = fun _ => none := by funext c; cases c <;> rfl
  have reliable : Sandbox.host.Reliable world.host := by
    apply Sandbox.host_reliable
    · rw [held]
      exact fun _ => nofun
    · exact fun _ => nofun
  obtain ⟨-, -, attempted, -, requests⟩ := padding_never_appears served reliable .setUp 10
  exact ⟨by decide +kernel, attempted, requests⟩

end ScriptMachine
