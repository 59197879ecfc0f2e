import ScriptMachine.Proofs.Machine.Stepping
import ScriptMachine.Session.Command

/-!
# The instructions of a run

A tick either ends the run or performs one instruction. A run that goes on, or that has
ended without a fault or a halt, is a path: every instruction of its trace was performed
with success, each on the machine that the one before it left.
-/

namespace ScriptMachine

variable {σ : Type}

theorem Machine.atEnd_iff {m : Machine} {code : Array UInt8} :
    m.atEnd code = true ↔ code.size ≤ m.position := by
  rw [atEnd, decide_eq_true_eq]
  exact Nat.sub_eq_zero_iff_le

namespace Run

inductive Ticked (host : Host σ) (r : Run σ) : Progress σ → Prop where
  | codeEnd : r.session.machine.atEnd r.session.script.code = true →
      Ticked host r (.ended .completed r.session r.world)
  | spent (limit : Nat) : r.session.machine.atEnd r.session.script.code = false →
      r.spent = some limit →
      Ticked host r (abandon r.session r.world (.tickLimitExceeded limit))
  | back (m : Machine) (w : World σ) : r.session.machine.atEnd r.session.script.code = false →
      r.spent = none →
      r.session.machine.step r.session.script host r.world = (.continuing, m, w) →
      m.position = 0 → Ticked host r (.ended .completed { r.session with machine := m } w)
  | onward (m : Machine) (w : World σ) : r.session.machine.atEnd r.session.script.code = false →
      r.spent = none →
      r.session.machine.step r.session.script host r.world = (.continuing, m, w) →
      m.position ≠ 0 →
      Ticked host r (.going { r with
        session := { r.session with machine := m }, world := w, ticks := r.ticks + 1 })
  | halted (m : Machine) (w : World σ) : r.session.machine.atEnd r.session.script.code = false →
      r.spent = none →
      r.session.machine.step r.session.script host r.world = (.halted, m, w) →
      Ticked host r (.ended .halted { r.session with machine := m.unwindHalt r.base }
        (w.note (.halted r.session.script.name (r.ticks + 1))))
  | failed (fault : Fault) (m : Machine) (w : World σ) :
      r.session.machine.atEnd r.session.script.code = false → r.spent = none →
      r.session.machine.step r.session.script host r.world = (.failed fault, m, w) →
      Ticked host r (abandon { r.session with machine := m } w fault)

theorem ticked (host : Host σ) (r : Run σ) : Ticked host r (r.tick host) := by
  simp only [tick]
  cases hend : r.session.machine.atEnd r.session.script.code with
  | true => exact .codeEnd hend
  | false =>
    simp only [Bool.false_eq_true, ↓reduceIte]
    cases hspent : r.spent with
    | some limit => exact .spent limit hend hspent
    | none =>
      simp only [Session.step]
      cases hstep : r.session.machine.step r.session.script host r.world with
      | mk outcome rest =>
        obtain ⟨m, w⟩ := rest
        cases outcome with
        | continuing =>
          simp only
          split
          · exact .back m w hend hspent hstep ‹_›
          · exact .onward m w hend hspent hstep ‹_›
        | halted => exact .halted m w hend hspent hstep
        | failed fault => exact .failed fault m w hend hspent hstep

def instruction? (r : Run σ) : Option Instruction :=
  if r.session.machine.atEnd r.session.script.code || r.spent.isSome then none
  else r.session.machine.instruction? r.session.script

end Run

namespace Progress

def session : Progress σ → Session
  | .going r => r.session
  | .ended _ s _ => s

def world : Progress σ → World σ
  | .going r => r.world
  | .ended _ _ w => w

/-- The instructions that at most `n` further ticks perform, in order. -/
def trace (host : Host σ) : Nat → Progress σ → List Instruction
  | 0, _ => []
  | _ + 1, .ended .. => []
  | n + 1, .going r => r.instruction?.toList ++ trace host n (r.tick host)

def Unstopped : Progress σ → Prop
  | .going _ | .ended .completed _ _ => True
  | .ended _ _ _ => False

theorem advance_ended (host : Host σ) (n : Nat) (outcome : Outcome) (s : Session) (w : World σ) :
    (Progress.ended outcome s w).advance host n = .ended outcome s w := by
  cases n <;> rfl

theorem advance_preserves {host : Host σ} {P : Progress σ → Prop}
    (tick : ∀ r : Run σ, P (.going r) → P (r.tick host)) {p : Progress σ} (h : P p) (n : Nat) :
    P (p.advance host n) := by
  induction n generalizing p with
  | zero => exact h
  | succ n ih =>
    cases p with
    | ended outcome s w => exact h
    | going r => exact ih (tick r h)

theorem trace_ended (host : Host σ) (n : Nat) (outcome : Outcome) (s : Session) (w : World σ) :
    (Progress.ended outcome s w).trace host n = [] := by
  cases n <;> rfl

theorem advance_add (host : Host σ) (n k : Nat) (p : Progress σ) :
    p.advance host (n + k) = (p.advance host n).advance host k := by
  induction n generalizing p with
  | zero => rw [Nat.zero_add]; rfl
  | succ n ih =>
    rw [Nat.succ_add]
    cases p with
    | ended outcome s w => rw [advance_ended, advance_ended, advance_ended]
    | going r => exact ih (r.tick host)

theorem trace_add (host : Host σ) (n k : Nat) (p : Progress σ) :
    p.trace host (n + k) = p.trace host n ++ (p.advance host n).trace host k := by
  induction n generalizing p with
  | zero => rw [Nat.zero_add]; rfl
  | succ n ih =>
    rw [Nat.succ_add]
    cases p with
    | ended outcome s w => simp only [advance_ended, trace_ended, List.append_nil]
    | going r =>
      change r.instruction?.toList ++ (r.tick host).trace host (n + k) =
        r.instruction?.toList ++ (r.tick host).trace host n ++ _
      rw [ih, List.append_assoc]
      rfl

theorem advance_succ_going {host : Host σ} {n : Nat} {r r' : Run σ}
    (h : (going r).advance host (n + 1) = .going r') :
    ∃ r₁, r.tick host = .going r₁ ∧ (going r₁).advance host n = .going r' := by
  change (r.tick host).advance host n = _ at h
  cases hp : r.tick host with
  | ended outcome s w =>
    rw [hp, advance_ended] at h
    cases h
  | going r₁ =>
    rw [hp] at h
    exact ⟨r₁, rfl, h⟩

/-- A run that has ended has a last tick, and nothing comes after it. -/
theorem exists_last_tick {host : Host σ} {n : Nat} {r : Run σ} {outcome : Outcome} {s : Session}
    {w : World σ} (h : (going r).advance host n = .ended outcome s w) :
    ∃ k r', k < n ∧ (going r).advance host k = .going r' ∧ r'.tick host = .ended outcome s w ∧
      (going r).trace host n = (going r).trace host k ++ r'.instruction?.toList := by
  induction n generalizing r with
  | zero => cases h
  | succ n ih =>
    change (r.tick host).advance host n = _ at h
    cases hp : r.tick host with
    | ended outcome' s' w' =>
      rw [hp, advance_ended] at h
      refine ⟨0, r, Nat.succ_pos n, rfl, hp.trans h, ?_⟩
      change r.instruction?.toList ++ (r.tick host).trace host n = [] ++ _
      rw [hp, trace_ended, List.append_nil, List.nil_append]
    | going r₁ =>
      rw [hp] at h
      obtain ⟨k, r', hk, hgoing, htick, htrace⟩ := ih h
      refine ⟨k + 1, r', Nat.succ_lt_succ hk, ?_, htick, ?_⟩
      · change (r.tick host).advance host k = _
        rw [hp, hgoing]
      · change r.instruction?.toList ++ (r.tick host).trace host n =
          r.instruction?.toList ++ (r.tick host).trace host k ++ _
        rw [hp, htrace, List.append_assoc]

end Progress

theorem Progress.advance_going {host : Host σ} {n : Nat} {r r' : Run σ}
    (h : (going r).advance host n = .going r') :
    r'.base = r.base ∧ r'.ticks = r.ticks + n ∧
      r'.session = { r.session with machine := r'.session.machine } := by
  induction n generalizing r with
  | zero =>
    cases h
    exact ⟨rfl, rfl, rfl⟩
  | succ n ih =>
    obtain ⟨r₁, htick, hrest⟩ := advance_succ_going h
    obtain ⟨hbase, hticks, hsession⟩ := ih hrest
    have ticked := r.ticked host
    rw [htick] at ticked
    cases ticked with
    | onward m w => exact ⟨hbase, by rw [hticks, Nat.add_right_comm, Nat.add_assoc], hsession⟩

inductive Path (script : Container) (host : Host σ) :
    Machine → World σ → List Instruction → Machine → World σ → Prop where
  | nil (m : Machine) (w : World σ) : Path script host m w [] m w
  | cons {m m₁ m' : Machine} {w w₁ w' : World σ} {i : Instruction} {rest : List Instruction} :
      m.instruction? script = some i → m.step script host w = (.continuing, m₁, w₁) →
      Path script host m₁ w₁ rest m' w' → Path script host m w (i :: rest) m' w'

theorem Run.instruction?_eq {host : Host σ} {r : Run σ} {m : Machine} {w : World σ}
    (hend : r.session.machine.atEnd r.session.script.code = false) (hspent : r.spent = none)
    (hstep : r.session.machine.step r.session.script host r.world = (.continuing, m, w)) :
    ∃ i, r.instruction? = some i ∧ r.session.machine.instruction? r.session.script = some i := by
  obtain ⟨i, _, hi, -⟩ := Machine.step_framed hstep nofun
  refine ⟨i, ?_, hi⟩
  rw [instruction?, hend, hspent]
  exact hi

theorem Run.tick_of_none {r : Run σ} (h : r.instruction? = none) (host : Host σ) :
    ∃ outcome s w, r.tick host = .ended outcome s w := by
  have ticked := r.ticked host
  generalize r.tick host = p at ticked ⊢
  cases ticked with
  | codeEnd | spent | back | halted | failed => exact ⟨_, _, _, rfl⟩
  | onward m w hend hspent hstep =>
    obtain ⟨i, hi, -⟩ := instruction?_eq hend hspent hstep
    rw [h] at hi
    contradiction

theorem Run.ready {r : Run σ} {i : Instruction} (h : r.instruction? = some i) :
    r.session.machine.atEnd r.session.script.code = false ∧ r.spent = none := by
  rw [instruction?] at h
  split at h
  · contradiction
  · rename_i unready
    simpa using unready

theorem Run.tick_of_continuing {host : Host σ} {r : Run σ} {i : Instruction} {m : Machine}
    {w : World σ} (hi : r.instruction? = some i)
    (h : r.session.machine.step r.session.script host r.world = (.continuing, m, w))
    (away : m.position ≠ 0) :
    r.tick host = .going { r with
      session := { r.session with machine := m }, world := w, ticks := r.ticks + 1 } := by
  obtain ⟨hend, hspent⟩ := ready hi
  simp only [tick, hend, hspent, Session.step, h, away, Bool.false_eq_true, ↓reduceIte]

theorem Run.machine_instruction? {r : Run σ} {i : Instruction} (h : r.instruction? = some i) :
    r.session.machine.instruction? r.session.script = some i := by
  rw [instruction?] at h
  split at h
  · contradiction
  · exact h

theorem Progress.trace_eq_cons {host : Host σ} {n : Nat} {p : Progress σ} {i : Instruction}
    {rest : List Instruction} (h : p.trace host n = i :: rest) :
    ∃ r k, p = .going r ∧ n = k + 1 ∧ r.instruction? = some i ∧
      (r.tick host).trace host k = rest := by
  cases n with
  | zero => cases h
  | succ n =>
    cases p with
    | ended outcome s w => cases h
    | going r =>
      change r.instruction?.toList ++ (r.tick host).trace host n = i :: rest at h
      cases hi : r.instruction? with
      | some j =>
        rw [hi] at h
        obtain ⟨rfl, hrest⟩ := List.cons.inj h
        exact ⟨r, n, rfl, rfl, hi, hrest⟩
      | none =>
        obtain ⟨outcome, s, w, hp⟩ := Run.tick_of_none hi host
        rw [hi, hp, trace_ended] at h
        cases h

theorem Progress.exists_of_trace {host : Host σ} {n : Nat} {p : Progress σ}
    {before after : List Instruction} {i : Instruction}
    (h : p.trace host n = before ++ i :: after) :
    ∃ r k, p.advance host before.length = .going r ∧ p.trace host before.length = before ∧
      r.instruction? = some i ∧ (going r).trace host k = i :: after := by
  induction before generalizing n p with
  | nil =>
    obtain ⟨r, k, rfl, rfl, hi, -⟩ := trace_eq_cons h
    exact ⟨r, k + 1, rfl, rfl, hi, h⟩
  | cons b before ih =>
    obtain ⟨r, k, rfl, rfl, hb, hrest⟩ := trace_eq_cons h
    obtain ⟨r', k', hgoing, hbefore, hi, hafter⟩ := ih hrest
    refine ⟨r', k', hgoing, ?_, hi, hafter⟩
    change r.instruction?.toList ++ (r.tick host).trace host before.length = b :: before
    rw [hb, hbefore]
    rfl

theorem Progress.path_of_unstopped {host : Host σ} {n : Nat} {p : Progress σ}
    (h : (p.advance host n).Unstopped) :
    Path p.session.script host p.session.machine p.world (p.trace host n)
      (p.advance host n).session.machine (p.advance host n).world := by
  induction n generalizing p with
  | zero => exact .nil _ _
  | succ n ih =>
    cases p with
    | ended outcome s w => exact .nil _ _
    | going r =>
      have ticked := r.ticked host
      change ((r.tick host).advance host n).Unstopped at h
      have ih := ih h
      change Path _ host _ _ (r.instruction?.toList ++ (r.tick host).trace host n)
        ((r.tick host).advance host n).session.machine ((r.tick host).advance host n).world
      -- The next progress is known by the way the tick ended alone.
      generalize r.tick host = p at ticked h ih
      cases ticked with
      | codeEnd hend =>
        have hnone : r.instruction? = none := by rw [Run.instruction?, hend]; rfl
        rw [hnone, trace_ended, advance_ended]
        exact .nil _ _
      | spent limit hend hspent =>
        rw [Run.abandon, advance_ended] at h
        exact h.elim
      | back m w hend hspent hstep hposition =>
        obtain ⟨i, hi, hi'⟩ := Run.instruction?_eq hend hspent hstep
        rw [hi]
        exact .cons hi' hstep ih
      | onward m w hend hspent hstep hposition =>
        obtain ⟨i, hi, hi'⟩ := Run.instruction?_eq hend hspent hstep
        rw [hi]
        exact .cons hi' hstep ih
      | halted m w hend hspent hstep =>
        rw [advance_ended] at h
        exact h.elim
      | failed fault m w hend hspent hstep =>
        rw [Run.abandon, advance_ended] at h
        exact h.elim

/-! What a run makes of a view of its machine and its world. -/

structure Written {γ : Type} (script : Container) (host : Host σ) (view : Machine → World σ → γ)
    (write : γ → Instruction → γ) : Prop where
  step : ∀ (m : Machine) (w : World σ),
    view (m.step script host w).2.1 (m.step script host w).2.2 =
      (m.instruction? script).toList.foldl write (view m w)
  unwind : ∀ m w e, view m.unwind (w.note e) = view m w
  unwindHalt : ∀ m base w e, view (m.unwindHalt base) (w.note e) = view m w

theorem Run.script_tick (host : Host σ) (r : Run σ) :
    (r.tick host).session.script = r.session.script := by
  have ticked := r.ticked host
  generalize r.tick host = p at ticked ⊢
  cases ticked <;> rfl

section

variable {γ : Type} {script : Container} {host : Host σ} {view : Machine → World σ → γ}
  {write : γ → Instruction → γ} (written : Written script host view write)

include written

theorem Written.tick {r : Run σ} (hscript : r.session.script = script) :
    view (r.tick host).session.machine (r.tick host).world =
      r.instruction?.toList.foldl write (view r.session.machine r.world) := by
  have stepped := written.step r.session.machine r.world
  have ticked := r.ticked host
  rw [← hscript] at stepped
  rw [Run.instruction?]
  generalize r.tick host = p at ticked ⊢
  cases ticked with
  | codeEnd hend =>
    rw [hend]
    rfl
  | spent limit hend hspent =>
    rw [hend, hspent]
    exact written.unwind _ _ _
  | back _ _ hend hspent hstep | onward _ _ hend hspent hstep =>
    rw [hstep] at stepped
    rw [hend, hspent]
    exact stepped
  | halted _ _ hend hspent hstep =>
    rw [hstep] at stepped
    rw [hend, hspent]
    exact (written.unwindHalt _ _ _ _).trans stepped
  | failed _ _ _ hend hspent hstep =>
    rw [hstep] at stepped
    rw [hend, hspent]
    exact (written.unwind _ _ _).trans stepped

theorem Written.advance {p : Progress σ} (hscript : p.session.script = script) (n : Nat) :
    view (p.advance host n).session.machine (p.advance host n).world =
      (p.trace host n).foldl write (view p.session.machine p.world) := by
  induction n generalizing p with
  | zero => rfl
  | succ n ih =>
    cases p with
    | ended outcome s w => rfl
    | going r =>
      change view ((r.tick host).advance host n).session.machine
          ((r.tick host).advance host n).world =
        (r.instruction?.toList ++ (r.tick host).trace host n).foldl write _
      rw [ih ((r.script_tick host).trans hscript), written.tick hscript, List.foldl_append]
      rfl

end

end ScriptMachine
