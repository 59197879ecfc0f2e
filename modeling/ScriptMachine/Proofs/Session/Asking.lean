import ScriptMachine.Host.Refusing
import ScriptMachine.Proofs.Machine.Answers
import ScriptMachine.Proofs.Machine.Turns
import ScriptMachine.Proofs.Session.Frames

/-!
# What a run asks for

A host is asked for what the instructions of a run ask, in their order, and for nothing else.
A host that writes the requests down answers the same instructions, since a run cannot tell
whether it is written down.
-/

namespace ScriptMachine

variable {σ τ : Type}

/-- What an instruction asks for, as a host that refuses everything has it written down. -/
def Instruction.request? (script : Container) (i : Instruction) : Option Request :=
  let answered := i.machine.execute script Refusing.host.recorded i.opcode.code
    { host := ((), []) }
  answered.2.2.host.2.head?

theorem Machine.requests_settle (host : Host σ) (turn : Turn) (m : Machine)
    (w : World (σ × List Request)) :
    (m.settle host.recorded turn w).2.2.host.2 = w.host.2 ++ turn.request?.toList := by
  cases turn with
  | ask q => exact m.settleQuery_requests host q w
  | _ => exact (List.append_nil _).symm

namespace Instruction

variable {script : Container} {i : Instruction} {m : Machine}

theorem request?_of_ok {turn : Turn} (h : Exec.perform script i.opcode i.machine = .ok turn m) :
    i.request? script = turn.request? := by
  rw [request?, Machine.execute_of_some _ _ _ i.opcode.ofCode?_code, h, Machine.finish,
    Machine.requests_settle]
  cases turn.request? <;> rfl

theorem request?_of_error {e : Fault} (h : Exec.perform script i.opcode i.machine = .error e m) :
    i.request? script = none := by
  rw [request?, Machine.execute_of_some _ _ _ i.opcode.ofCode?_code, h]
  rfl

end Instruction

namespace Machine

theorem requests_step (script : Container) (host : Host σ) (m : Machine)
    (w : World (σ × List Request)) :
    (m.step script host.recorded w).2.2.host.2 =
      (m.instruction? script).toList.foldl
        (fun asked i => asked ++ (i.request? script).toList) w.host.2 := by
  rw [step, instruction?]
  cases Reader.uint16 (m.reader script.code) with
  | error e r => rfl
  | ok code r =>
    change ((m.fetched code r.position).execute script host.recorded code _).2.2.host.2 = _
    cases hop : Opcode.ofCode? code with
    | none =>
      rw [execute_of_none _ _ _ hop]
      simp only [hop]
      rfl
    | some op =>
      rw [execute_of_some _ _ _ hop]
      simp only [hop, Option.map_some, Option.toList_some, List.foldl_cons, List.foldl_nil]
      cases hperform : Exec.perform script op (m.fetched code r.position) with
      | error e m₁ =>
        rw [Instruction.request?_of_error hperform]
        exact (List.append_nil _).symm
      | ok turn m₁ =>
        rw [Instruction.request?_of_ok hperform]
        exact m₁.requests_settle host turn (w.note _)

end Machine

theorem Progress.requests_advance (host : Host σ) (n : Nat) (p : Progress (σ × List Request)) :
    (p.advance host.recorded n).world.host.2 = p.world.host.2 ++
      (p.trace host.recorded n).filterMap (·.request? p.session.script) := by
  have written : Written p.session.script host.recorded (fun _ w => w.host.2)
      (fun asked i => asked ++ (i.request? p.session.script).toList) :=
    ⟨Machine.requests_step p.session.script host, fun _ _ _ => rfl, fun _ _ _ _ => rfl⟩
  rw [written.advance rfl n]
  generalize p.world.host.2 = asked
  induction p.trace host.recorded n generalizing asked with
  | nil => exact (List.append_nil _).symm
  | cons i rest ih =>
    rw [List.foldl_cons, ih, List.append_assoc]
    cases hi : i.request? p.session.script with
    | none => rw [List.filterMap_cons_none hi]; rfl
    | some request => rw [List.filterMap_cons_some hi]; rfl

/-! Runs that mirror each other perform the same instructions. -/

section

variable {view : τ → σ} {host' : Host τ} {host : Host σ}

theorem Run.Mirrors.instruction? {r' : Run τ} {r : Run σ} (h : r'.Mirrors view r) :
    r'.instruction? = r.instruction? := by
  obtain ⟨position, opcode, opcodeOffset, hmachine⟩ := h.session.machine
  have hposition := h.position
  rw [hmachine] at hposition
  rw [Run.instruction?, Run.instruction?, h.atEnd, h.spent, h.session.script, hmachine]
  obtain rfl : position = r.session.machine.position := hposition
  rfl

theorem Progress.trace_mirrors (mimics : host'.Mimics view host) {p' : Progress τ}
    {p : Progress σ} (h : Progress.Mirrors view p' p) (n : Nat) :
    p'.trace host' n = p.trace host n := by
  induction n generalizing p' p with
  | zero => rfl
  | succ n ih =>
    cases h with
    | ended outcome alike hworld => rfl
    | going h => rw [trace, trace, h.instruction?, ih (Run.tick_mirrors mimics h)]

end

def Begun.progress : Begun σ → Progress σ
  | .declined outcome s w => .ended outcome s w
  | .started p => p

namespace Session

theorem performed_eq (host : Host σ) (fuel : Nat) (command : Command) (s : Session) (w : World σ) :
    s.performed host fuel command w = (s.begin command w).progress.trace host fuel := by
  rw [performed]
  cases s.begin command w with
  | declined outcome s₁ w₁ => exact (Progress.trace_ended host fuel outcome s₁ w₁).symm
  | started p => rfl

theorem host_conclude (command : Command) (outcome : Outcome) (s : Session) (w : World σ) :
    (s.conclude command outcome w).2.2.host = w.host := by
  simp only [conclude, discardResult]
  cases s.machine.data <;> rfl

theorem host_attempt (host : Host σ) (fuel : Nat) (command : Command) (s : Session)
    (w : World σ) : (s.attempt host fuel command w).world.host =
      ((s.begin command w).progress.advance host fuel).world.host := by
  rw [attempt]
  cases s.begin command w with
  | declined outcome s₁ w₁ => exact congrArg (·.world.host) (Progress.advance_ended ..).symm
  | started p =>
    simp only [Begun.progress]
    cases p.advance host fuel with
    | going r => rfl
    | ended outcome s₁ w₁ => exact host_conclude command outcome s₁ w₁

theorem runFrom_cases (s : Session) (w : World σ) (address : Nat) (prepare : Machine → Machine) :
    (s.runFrom w address prepare).session.script = s.script ∧
      (s.runFrom w address prepare).world.host = w.host := by
  rw [runFrom]
  split <;> exact ⟨rfl, rfl⟩

theorem begin_cases (command : Command) (s : Session) (w : World σ) :
    (s.begin command w).progress.session.script = s.script ∧
      (s.begin command w).progress.world.host = w.host := by
  have begun := beginning command s w
  generalize s.begin command w = b at begun ⊢
  cases begun with
  | alreadyInitialized | noSuchProcedure => exact ⟨rfl, rfl⟩
  | setUp => exact s.runFrom_cases _ 0 id
  | call _ context p => exact (s.told context).runFrom_cases _ p.body.toNat prepareCall

theorem begin_recording (command : Command) (s : Session) (w : World σ) :
    Progress.Mirrors Prod.fst (s.begin command w.recording).progress
      (s.begin command w).progress := by
  rcases begin_mirrors s.alike_refl w.mirrors_recording command with
    ⟨outcome, s₁', s₁, w₁', w₁, hbegin', hbegin, alike, hworld⟩ | ⟨p', p, hbegin', hbegin, hp⟩
  · rw [hbegin', hbegin]
    exact .ended outcome alike hworld
  · rw [hbegin', hbegin]
    exact hp

/-- The requests of a command are those of the instructions it performs. -/
theorem requests_eq (host : Host σ) (fuel : Nat) (command : Command) (s : Session) (w : World σ) :
    s.requests fuel [(host, command)] w =
      (s.performed host fuel command w).filterMap (·.request? s.script) := by
  have attempted : s.requests fuel [(host, command)] w =
      (s.attempt host.recorded fuel command w.recording).world.host.2 := by
    simp only [requests, recorded, List.map_cons, List.map_nil, carryOut]
    cases s.attempt host.recorded fuel command w.recording <;> rfl
  obtain ⟨script, world⟩ := begin_cases command s w.recording
  rw [attempted, host_attempt, Progress.requests_advance, script, world, performed_eq,
    Progress.trace_mirrors host.mimics_recorded (begin_recording command s w)]
  rfl

end Session

end ScriptMachine
