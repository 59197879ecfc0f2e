import ScriptMachine.Proofs.Code.Assembling
import ScriptMachine.Proofs.Container.Drafting
import ScriptMachine.Proofs.Session.Asking
import ScriptMachine.Proofs.Session.Memory

/-!
# Contexts of calls

The context that a host gives with a call is what every instruction of the run reads and what
a call of another script hands on. It does not outlast the call. Whether a call's run has set
the overrides is known after it, and no other run has a part in that.
-/

namespace ScriptMachine

variable {σ : Type}

def CallContext.read? (c : CallContext) : Opcode → Option Value
  | .sourceObj => some (.object c.source)
  | .targetObj => some (.object c.target)
  | .fixedParam => some (.int c.fixedParam)
  | .usedSkill => some (.int (c.usedSkill.getD (-1)))
  | _ => none

def Command.context : Command → CallContext
  | .setUp => {}
  | .call _ context => context

theorem Machine.executes_of_read? (script : Container) {op : Opcode} {m : Machine} {v : Value}
    (h : m.context.read? op = some v) :
    m.Executes script op .continuing { m with data := v :: m.data } := by
  intro σ host w
  rw [execute_of_some host m w op.ofCode?_code]
  cases op with
  | sourceObj | targetObj | fixedParam | usedSkill =>
    cases h
    rfl
  | _ => contradiction

theorem Progress.context_trace {host : Host σ} {n : Nat} {p : Progress σ} {i : Instruction}
    (h : i ∈ p.trace host n) : i.machine.context = p.session.machine.context := by
  induction n generalizing p with
  | zero => contradiction
  | succ n ih =>
    cases p with
    | ended outcome s w => contradiction
    | going r =>
      have kept : (r.tick host).session.machine.context = r.session.machine.context :=
        congrArg (·.2.2.2) (r.terms_tick host)
      change i ∈ r.instruction?.toList ++ (r.tick host).trace host n at h
      rcases List.mem_append.mp h with h | h
      · have hi := Run.machine_instruction? (Option.mem_toList.mp h)
        obtain ⟨code, position, hmachine⟩ := Machine.machine_of_instruction? hi
        rw [hmachine]
        rfl
      · exact (ih h).trans kept

theorem Session.context_started {command : Command} {s : Session} {w : World σ} {p : Progress σ}
    (idle : s.machine.context = {}) (h : s.begin command w = .started p) :
    p.session.machine.context = command.context := by
  have begun := beginning command s w
  rw [h] at begun
  cases begun with
  | setUp fresh =>
    have terms := s.terms_runFrom (w.note (.initializing s.script.name)) 0 id fun _ => rfl
    exact (congrArg (·.2.2.2) terms).trans idle
  | call procedure context p hprocedure =>
    have terms := (s.told context).terms_runFrom
      (w.note (.calling s.script.name procedure p.body.toNat)) p.body.toNat prepareCall fun _ => rfl
    exact congrArg (·.2.2.2) terms

theorem Session.context_performed {host : Host σ} {fuel : Nat} {command : Command} {s : Session}
    {w : World σ} {i : Instruction} (idle : s.machine.context = {})
    (h : i ∈ s.performed host fuel command w) : i.machine.context = command.context := by
  rw [performed] at h
  cases hbegin : s.begin command w with
  | declined outcome s₁ w₁ =>
    rw [hbegin] at h
    contradiction
  | started p =>
    rw [hbegin] at h
    exact (Progress.context_trace h).trans (context_started idle hbegin)

theorem Session.overrides_obey {host : Host σ} {fuel : Nat} {procedure : String}
    {context : CallContext} {s s' : Session} {w w' : World σ} {outcome : Outcome}
    (h : s.obey host fuel (.call procedure context) w = some (outcome, s', w')) :
    s'.machine.overrides = true ↔
      ∃ i ∈ s.performed host fuel (.call procedure context) w, i.opcode = .scriptOverrides := by
  have memory : s'.machine.overrides = _ := congrArg Memory.overrides (memory_obey h)
  rw [memory, Command.closes, overrides_remembered]
  simp [Command.opens]

structure Instruction.Informed (script : Container) (c : CallContext) (i : Instruction) :
    Prop where
  context : i.machine.context = c
  reads : ∀ v, c.read? i.opcode = some v →
    i.machine.Executes script i.opcode .continuing { i.machine with data := v :: i.machine.data }
  hands : ∀ (σ : Type) (host : Host σ) (w : World σ),
    (∀ fault, (i.machine.execute script host i.opcode.code w).1 ≠ .failed fault) →
      (i.request? script).bind Request.context? =
        if i.opcode = .callScriptProcedure then some c else none

theorem Instruction.informed (script : Container) (i : Instruction) :
    i.Informed script i.machine.context where
  context := rfl
  reads _ := i.machine.executes_of_read? script
  hands σ host w succeeds := by
    cases hperform : Exec.perform script i.opcode i.machine with
    | ok turn m =>
      rw [request?_of_ok hperform]
      exact Exec.hands_perform hperform
    | error e m =>
      rw [Machine.execute_of_some _ _ _ i.opcode.ofCode?_code, hperform] at succeeds
      exact absurd rfl (succeeds e)

theorem Instruction.context_of_request {script : Container} {handed : CallContext}
    {i : Instruction} {request : Request} (asked : i.request? script = some request)
    (hands : request.context? = some handed) : handed = i.machine.context := by
  cases hperform : Exec.perform script i.opcode i.machine with
  | ok turn m =>
    have perform := Exec.hands_perform hperform
    rw [← request?_of_ok hperform, asked, Option.bind_some, hands] at perform
    split at perform
    · exact Option.some_inj.mp perform
    · contradiction
  | error e m =>
    rw [request?_of_error hperform] at asked
    contradiction

/-- Contexts are isolated. Whatever commands a session has had, in the run of a further one
each instruction has the context of that command, a default one for the startup code. The host
is asked for what these instructions ask, so no other context is handed on to it. After the
command the context is the default one again, and the overrides are set if and only if the
call has performed an instruction that sets them. -/
theorem context_isolated {script : Container} {owner : Option Handle} {config : Config}
    {s : Session} (reached : Reached script owner config s) (host : Host σ) (fuel : Nat)
    (command : Command) (w : World σ) :
    let performed := s.performed host fuel command w
    let requests := s.requests fuel [(host, command)] w
    (∀ i ∈ performed, i.Informed s.script command.context) ∧
    requests = performed.filterMap (·.request? s.script) ∧
    (∀ request ∈ requests, ∀ c, request.context? = some c → c = command.context) ∧
    ∀ outcome s' w', s.obey host fuel command w = some (outcome, s', w') →
      s'.machine.context = {} ∧ ∀ procedure c, command = .call procedure c →
        (s'.machine.overrides = true ↔ ∃ i ∈ performed, i.opcode = .scriptOverrides) := by
  intro performed requests
  have idle : s.machine.context = {} := congrArg (·.2.2.2) reached.terms
  have informed : ∀ i ∈ performed, i.Informed s.script command.context := by
    intro i hi
    rw [← Session.context_performed idle hi]
    exact i.informed s.script
  have asked := s.requests_eq host fuel command w
  refine ⟨informed, asked, ?_, ?_⟩
  · intro request hrequest c handed
    rw [show requests = _ from asked] at hrequest
    obtain ⟨i, hi, hasked⟩ := List.mem_filterMap.mp hrequest
    exact (i.context_of_request hasked handed).trans (informed i hi).context
  · intro outcome s' w' hobey
    refine ⟨congrArg (·.2.2.2) (reached.obeyed hobey).terms, ?_⟩
    rintro procedure c rfl
    exact Session.overrides_obey hobey

def tellingScript : Container where
  name := "tell"
  code :=
    let body := Block.ofSteps [.plain .scriptOverrides, .plain .fixedParam, .plain .exit]
    (Draft.ofSteps [.procedure { name := "tell", body }]).build.toArray
  procedures := #[⟨"tell", ⟨0⟩, 0, 0, 90, 0⟩]
  identifiers := [⟨6, "tell"⟩]
  strings := []

theorem tell_context_isolated :
    let session := Session.new tellingScript none {}
    let command : Command := .call "tell" { fixedParam := 5 }
    Container.decode "tell" tellingScript.code = .ok tellingScript ∧
    Reached tellingScript none {} session ∧
    (∃ i ∈ session.performed Refusing.host 4 command { host := () }, i.opcode = .fixedParam ∧
      i.machine.context = { fixedParam := 5 }) ∧
    ∃ s' w', session.obey Refusing.host 4 command { host := () } = some (.halted, s', w') ∧
      s'.machine.context = {} ∧ s'.machine.overrides = true := by
  intro session command
  obtain ⟨informed, -, -, after⟩ :=
    context_isolated Reached.new Refusing.host 4 command { host := () }
  have outcome : (session.obey Refusing.host 4 command { host := () }).map (·.1) =
      some .halted := by decide +kernel
  have reads : ∃ i ∈ session.performed Refusing.host 4 command { host := () },
      i.opcode = .fixedParam := by decide +kernel
  have overrides : ∃ i ∈ session.performed Refusing.host 4 command { host := () },
      i.opcode = .scriptOverrides := by decide +kernel
  obtain ⟨i, hi, hopcode⟩ := reads
  obtain ⟨⟨_, s', w'⟩, halted, rfl⟩ := Option.map_eq_some_iff.mp outcome
  obtain ⟨context, overriding⟩ := after _ s' w' halted
  exact ⟨by decide +kernel, .new, ⟨i, hi, hopcode, (informed i hi).context⟩, s', w', halted,
    context, (overriding _ _ rfl).mpr overrides⟩

end ScriptMachine
