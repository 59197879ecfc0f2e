import ScriptMachine.Proofs.Machine.Turns
import ScriptMachine.Proofs.Session.Frames
import ScriptMachine.Proofs.Session.Slots

/-!
# What a halt leaves

A halt ends a run at its exit instruction. The frames are dropped and the data stack is cut
down to the depth it had when the run began; the globals base and the local variables stay.
So a run that has taken no value from below that depth leaves the stack it found, but for
the slots it stored to.
-/

namespace ScriptMachine

variable {σ : Type}

theorem Machine.step_halted {script : Container} {host : Host σ} {m m' : Machine} {w w' : World σ}
    (h : m.step script host w = (.halted, m', w')) :
    m.instruction? script = some ⟨.exit, m'⟩ := by
  obtain ⟨i, e, turn, m₁, hi, hperform, hsettle⟩ := step_performed h nofun
  obtain rfl : turn = .halt := by
    cases turn with
    | halt => rfl
    | _ => cases hsettle
  obtain ⟨op, m₀⟩ := i
  obtain rfl : op = .exit := Exec.exit_of_halt hperform
  cases hperform
  cases hsettle
  exact hi

theorem Progress.exists_exit {host : Host σ} {n : Nat} {r : Run σ} {s : Session} {w : World σ}
    (h : (going r).advance host n = .ended .halted s w) :
    ∃ before exit m w₁, (going r).trace host n = before ++ [exit] ∧ exit.opcode = .exit ∧
      Path r.session.script host r.session.machine r.world before m w₁ ∧
      exit.machine.data = m.data ∧ s.machine = exit.machine.unwindHalt r.base := by
  obtain ⟨k, r', -, hgoing, htick, htrace⟩ := exists_last_tick h
  obtain ⟨hbase, -, hsession⟩ := advance_going hgoing
  have hscript : r'.session.script = r.session.script := by rw [hsession]
  have unstopped : ((going r).advance host k).Unstopped := by
    rw [hgoing]
    trivial
  have path := path_of_unstopped unstopped
  rw [hgoing] at path
  have ticked := r'.ticked host
  rw [htick] at ticked
  cases ticked with
  | halted m w hend hspent hstep =>
    have hi := Machine.step_halted hstep
    have hlast : r'.instruction? = some ⟨.exit, m⟩ := by
      rw [Run.instruction?, hend, hspent]
      exact hi
    rw [hlast] at htrace
    exact ⟨_, _, _, _, htrace, rfl, path, Machine.data_of_instruction? hi, by rw [← hbase]⟩

theorem Session.runFrom_halted {host : Host σ} {fuel address : Nat} {prepare : Machine → Machine}
    {s s₁ : Session} {w w₁ : World σ}
    (h : (s.runFrom w address prepare).advance host fuel = .ended .halted s₁ w₁) :
    ∃ r, s.runFrom w address prepare = .going r ∧ r.base = s.machine.data.length ∧
      r.session.machine = prepare { s.machine with position := address } := by
  rw [runFrom] at h ⊢
  split at h
  · rename_i inside
    rw [if_pos inside]
    exact ⟨_, rfl, rfl, rfl⟩
  · rw [Run.abandon, Progress.advance_ended] at h
    cases h

theorem Session.halted_run {host : Host σ} {fuel : Nat} {command : Command} {s s' : Session}
    {w w' : World σ} (h : s.obey host fuel command w = some (.halted, s', w')) :
    ∃ r s₁ w₁, s.begin command w = .started (.going r) ∧ r.base = s.machine.data.length ∧
      (∃ own : Stack, r.session.machine.data = own ++ s.machine.data) ∧
      (Progress.going r).advance host fuel = .ended .halted s₁ w₁ ∧
      s' = (s₁.conclude command .halted w₁).2.1 := by
  have begun := beginning command s w
  rcases obey_cases h with hbegin | ⟨p, s₁, w₁, hbegin, hp, hconclude⟩
  · rw [hbegin] at begun
    cases begun
  · have hs' : s' = (s₁.conclude command .halted w₁).2.1 := by rw [hconclude]
    rw [hbegin] at begun ⊢
    cases begun with
    | setUp fresh =>
      obtain ⟨r, hr, hbase, hmachine⟩ := runFrom_halted hp
      rw [hr] at hp ⊢
      exact ⟨r, s₁, w₁, rfl, hbase, ⟨[], by rw [hmachine]; rfl⟩, hp, hs'⟩
    | call procedure context p hprocedure =>
      obtain ⟨r, hr, hbase, hmachine⟩ := runFrom_halted hp
      rw [hr] at hp ⊢
      exact ⟨r, s₁, w₁, rfl, hbase, ⟨[.int 0], by rw [hmachine]; rfl⟩, hp, hs'⟩

structure Session.CutDown (base : Nat) (exit : Machine) (s : Session) : Prop where
  data : s.machine.data.bottomUp = exit.data.bottomUp.take base
  globalsBase : s.machine.globalsBase = exit.globalsBase
  locals : s.machine.locals = exit.locals
  unframed : s.machine.Unframed
  status : s.status = .halted

theorem Session.cutDown_conclude {exit : Machine} {base : Nat} {s : Session}
    (h : s.machine = exit.unwindHalt base) (command : Command) (w : World σ) :
    (s.conclude command .halted w).2.1.CutDown base exit := by
  have unframed : s.machine.Unframed := by
    rw [h]
    exact Machine.unframed_resetFrames _
  have machine := machine_conclude command .halted s w
  rw [h] at machine
  refine ⟨?_, ?_, ?_, unframed_conclude.mpr unframed, rfl⟩
  · rw [machine, data_settled]
    exact Stack.bottomUp_truncate exit.data base
  · rw [machine, globalsBase_settled]
    rfl
  · rw [machine]
    cases command <;> rfl

theorem Instruction.stored?_exit {i : Instruction} (exit : i.opcode = .exit) (slot : Nat) :
    i.stored? slot = none := by
  obtain ⟨op, m⟩ := i
  obtain rfl : op = .exit := exit
  rfl

/-- A halt drops only what the halted run pushed. Of the data stack at the exit instruction
the values stay below the depth that it had before the command, and with them the globals
base and the local variables. So where no instruction has taken a value from below that
depth, the data stack is as deep as before, and each slot holds the value last stored to it
by the run or else the value it held before. -/
theorem halt_drops_pushed {host : Host σ} {fuel : Nat} {command : Command} {s s' : Session}
    {w w' : World σ} (halted : s.obey host fuel command w = some (.halted, s', w')) :
    let trace := s.performed host fuel command w
    let base := s.machine.data.length
    (∃ before exit, trace = before ++ [exit] ∧ exit.opcode = .exit ∧
      s'.CutDown base exit.machine) ∧
    ((∀ i ∈ trace, ∀ slot < base, ¬ i.Takes slot) →
      s'.machine.data.length = base ∧
      ∀ slot < base, s'.machine.data.bottomUp[slot]? =
        (lastStored slot trace).or s.machine.data.bottomUp[slot]?) := by
  intro trace base
  obtain ⟨r, s₁, w₁, hbegin, hbase, ⟨own, hown⟩, hran, rfl⟩ := Session.halted_run halted
  obtain ⟨before, exit, m, w₂, htrace, hexit, path, hdata, hmachine⟩ := Progress.exists_exit hran
  rw [hbase] at hmachine
  have cut := Session.cutDown_conclude hmachine command w₁
  have htrace : trace = before ++ [exit] := by
    rw [← htrace]
    simp only [trace, Session.performed, hbegin]
  refine ⟨⟨before, exit, htrace, hexit, cut⟩, ?_⟩
  intro untaken
  have hslot (slot : Nat) (below : slot < base) : slot < exit.machine.data.length ∧
      exit.machine.data.bottomUp[slot]? =
        (lastStored slot trace).or s.machine.data.bottomUp[slot]? := by
    have inside : slot < r.session.machine.data.length := by
      rw [hown, List.length_append]
      exact Nat.lt_of_lt_of_le below (Nat.le_add_left _ _)
    have kept : ∀ i ∈ before, ¬ i.Takes slot := by
      intro i hi
      refine untaken i ?_ slot below
      rw [htrace]
      exact List.mem_append_left _ hi
    obtain ⟨inside', hvalue⟩ := path.slot inside kept
    rw [← hdata] at inside' hvalue
    refine ⟨inside', ?_⟩
    -- The exit instruction stores nothing, and what the run started with lies above the slot.
    rw [hvalue, htrace, lastStored_append, lastStored, lastStored, Option.none_or,
      Instruction.stored?_exit hexit, Option.none_or, hown, Stack.bottomUp_append,
      List.getElem?_append_left]
    rwa [Stack.bottomUp, List.length_reverse]
  constructor
  · have deep : base ≤ exit.machine.data.length :=
      Stack.le_length fun slot below => (hslot slot below).1
    rw [← List.length_reverse]
    refine (congrArg List.length cut.data).trans ?_
    rw [List.length_take, Stack.bottomUp, List.length_reverse, Nat.min_eq_left deep]
  · intro slot below
    rw [cut.data, List.getElem?_take_of_lt below]
    exact (hslot slot below).2

def haltingScript : Container where
  name := "stop"
  code :=
    let body := Block.ofSteps [.int 9, .int 0, .plain .storeGlobal, .plain .exit]
    (Draft.ofSteps [.procedure { name := "stop", body }]).build.toArray
  procedures := #[⟨"stop", ⟨0⟩, 0, 0, 90, 0⟩]
  identifiers := [⟨6, "stop"⟩]
  strings := []

theorem stop_drops_pushed :
    let session : Session := { script := haltingScript, machine := { data := [.int 7, .int 5] } }
    Container.decode "stop" haltingScript.code = .ok haltingScript ∧
    ∃ s' w', session.obey Refusing.host 4 (.call "stop" {}) { host := () } =
        some (.halted, s', w') ∧
      s'.machine.data.length = 2 ∧
      s'.machine.data.bottomUp[0]?.bind Value.int? = some 9 ∧
      s'.machine.data.bottomUp[1]?.bind Value.int? = some 7 := by
  intro session
  have outcome : (session.obey Refusing.host 4 (.call "stop" {}) { host := () }).map (·.1) =
      some .halted := by decide +kernel
  have untaken : ∀ i ∈ session.performed Refusing.host 4 (.call "stop" {}) { host := () },
      ∀ slot < 2, ¬ i.Takes slot := by decide +kernel
  obtain ⟨⟨_, s', w'⟩, halted, rfl⟩ := Option.map_eq_some_iff.mp outcome
  obtain ⟨hlength, hslot⟩ := (halt_drops_pushed halted).2 untaken
  refine ⟨by decide +kernel, s', w', halted, hlength, ?_, ?_⟩
  · rw [hslot 0 (by decide)]
    decide +kernel
  · rw [hslot 1 (by decide)]
    decide +kernel

end ScriptMachine
