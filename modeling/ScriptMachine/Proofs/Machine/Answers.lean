import ScriptMachine.Proofs.Host.Recording
import ScriptMachine.Proofs.Machine.Deferred

/-!
# What a host can make of one instruction

An instruction has taken and checked all its operands before it asks the host, and whatever
it is answered, a refusal or a value, it has succeeded by then. So the machine alone decides
what the host is asked and how the instruction ends. The host decides on one value that is
pushed, if any is.
-/

namespace ScriptMachine

abbrev Performance := (σ : Type) → Host σ → World σ → StepOutcome × Machine × World σ

/-- No host can change more of what is performed than one value on top of the data stack. All
hosts are asked the same, at most once, and not at all if the work fails. -/
structure Unswayed (perform : Performance) : Prop where
  requests : ∃ request : Option Request, ∀ {σ : Type} (host : Host σ) (w : World σ),
    let (outcome, _, after) := perform _ host.recorded w.recording
    after.host.2 = request.toList ∧ ∀ fault, outcome = .failed fault → request = none
  machine : ∀ {σ τ : Type} (host : Host σ) (host' : Host τ) (w : World σ) (w' : World τ),
    w'.dice = w.dice →
    let (outcome, m, _) := perform _ host w
    let (outcome', m', _) := perform _ host' w'
    outcome' = outcome ∧ (m' = m ∨ ∃ (m₀ : Machine) (v v' : Value),
      m = { m₀ with data := v :: m₀.data } ∧ m' = { m₀ with data := v' :: m₀.data })

variable {σ : Type}

theorem unswayed_failed (fault : Fault) (m : Machine) :
    Unswayed fun _ _ w => (.failed fault, m, w) where
  requests := ⟨none, fun _ _ => ⟨rfl, fun _ _ => rfl⟩⟩
  machine _ _ _ _ _ := ⟨rfl, .inl rfl⟩

theorem Unswayed.noted {perform : Performance} (h : Unswayed perform) (e : Event) :
    Unswayed fun σ host w => perform σ host (w.note e) where
  requests := by
    obtain ⟨request, asked⟩ := h.requests
    exact ⟨request, fun host w => asked host (w.note e)⟩
  machine host host' w w' same := h.machine host host' (w.note e) (w'.note e) same

namespace Machine

theorem settleQuery_requests (host : Host σ) (q : Query) (m : Machine)
    (w : World (σ × List Request)) :
    (m.settleQuery host.recorded q w).2.host.2 = w.host.2 ++ [q.request] := by
  simp only [settleQuery, World.ask, Host.recorded]
  cases (host.answer q.request w.host.1).1 <;> rfl

theorem unswayed_settle (turn : Turn) (m : Machine) :
    Unswayed fun _ host w => m.settle host turn w where
  requests := by
    cases turn with
    | next | entered | halt | draw => exact ⟨none, fun _ _ => ⟨rfl, nofun⟩⟩
    | ask q =>
      refine ⟨some q.request, fun host w => ⟨?_, nofun⟩⟩
      exact m.settleQuery_requests host q w.recording
  machine host host' w w' same := by
    cases turn with
    | next | entered | halt => exact ⟨rfl, .inl rfl⟩
    | draw low high =>
      refine ⟨rfl, .inl ?_⟩
      rw [same]
    | ask q =>
      obtain ⟨request, operation, deliver⟩ := q
      refine ⟨rfl, ?_⟩
      cases deliver with
      | none => exact .inl rfl
      | some view => exact .inr ⟨m, _, _, rfl, rfl⟩

theorem unswayed_execute (script : Container) (code : UInt16) (m : Machine) :
    Unswayed fun _ host w => m.execute script host code w := by
  cases hop : Opcode.ofCode? code with
  | none =>
    simp only [execute_of_none _ m _ hop]
    exact unswayed_failed _ m
  | some op =>
    simp only [execute_of_some _ m _ hop]
    cases Exec.perform script op m with
    | ok turn m₁ => exact m₁.unswayed_settle turn
    | error e m₁ => exact unswayed_failed e m₁

theorem unswayed_step (script : Container) (m : Machine) :
    Unswayed fun _ host w => m.step script host w := by
  simp only [step]
  cases Reader.uint16 (m.reader script.code) with
  | error e r => exact unswayed_failed _ _
  | ok code r => exact (unswayed_execute script code _).noted (.executing m.position code)

end Machine

/-- The host cannot fault a script, and no fault reaches the host: for all numbers of opcodes
as for one that is fetched, from whatever state of the machine. -/
theorem host_sways_nothing (script : Container) (m : Machine) :
    (∀ code, Unswayed fun _ host w => m.execute script host code w) ∧
      Unswayed fun _ host w => m.step script host w :=
  ⟨fun code => m.unswayed_execute script code, m.unswayed_step script⟩

end ScriptMachine
