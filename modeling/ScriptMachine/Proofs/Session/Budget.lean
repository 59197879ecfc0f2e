import ScriptMachine.Host.Refusing
import ScriptMachine.Proofs.Code.Assembling
import ScriptMachine.Proofs.Container.Drafting
import ScriptMachine.Proofs.Session.Mirroring
import ScriptMachine.Proofs.Session.Trace

/-!
# Budgets of ticks

A run with a budget goes on as the one without does, tick for tick, until the budget is
spent. If the other run has ended by then, or is at the end of the code, the budget makes no
difference. If it has not, the budget ends the run before its next instruction.
-/

namespace ScriptMachine

variable {σ τ : Type}

def Session.under (limit : Option Nat) (s : Session) : Session := { s with maxTicks := limit }

namespace Run

def under (limit : Option Nat) (r : Run σ) : Run σ :=
  { r with session := r.session.under limit }

def executes (r : Run σ) : Bool :=
  !r.session.machine.atEnd r.session.script.code && r.spent.isNone

end Run

namespace Progress

def under (limit : Option Nat) : Progress σ → Progress σ
  | .going r => .going (r.under limit)
  | .ended outcome s w => .ended outcome (s.under limit) w

/-- How many instructions at most `n` further ticks execute, one that fails included. -/
def executed (host : Host σ) : Nat → Progress σ → Nat
  | 0, _ => 0
  | _ + 1, .ended .. => 0
  | n + 1, .going r => (if r.executes then 1 else 0) + executed host n (r.tick host)

theorem executed_ended (host : Host σ) (n : Nat) (outcome : Outcome) (s : Session) (w : World σ) :
    (Progress.ended outcome s w).executed host n = 0 := by
  cases n <;> rfl

theorem executed_le (host : Host σ) (n : Nat) (p : Progress σ) : p.executed host n ≤ n := by
  induction n generalizing p with
  | zero => exact Nat.le_refl 0
  | succ n ih =>
    cases p with
    | ended outcome s w => exact Nat.zero_le _
    | going r =>
      have rest := ih (r.tick host)
      rw [executed]
      split <;> omega

theorem executed_add (host : Host σ) (n k : Nat) (p : Progress σ) :
    p.executed host (n + k) = p.executed host n + (p.advance host n).executed host k := by
  induction n generalizing p with
  | zero => simp [executed, advance]
  | succ n ih =>
    rw [Nat.succ_add]
    cases p with
    | ended outcome s w => simp [executed, advance, executed_ended]
    | going r => simp [executed, advance, ih, Nat.add_assoc]

end Progress

theorem Run.executes_of_going {host : Host σ} {r r' : Run σ} (h : r.tick host = .going r') :
    r.executes = true := by
  have ticked := r.ticked host
  rw [h] at ticked
  cases ticked with
  | onward m w hend hspent => simp [executes, hend, hspent]

theorem Run.exists_instruction? {host : Host σ} {r r' : Run σ} (h : r.tick host = .going r') :
    ∃ i, r.instruction? = some i := by
  cases hi : r.instruction? with
  | some i => exact ⟨i, rfl⟩
  | none =>
    obtain ⟨_, _, _, hended⟩ := tick_of_none hi host
    rw [hended] at h
    cases h

namespace Progress

theorem executed_going {host : Host σ} {n : Nat} {r r' : Run σ}
    (h : (going r).advance host n = .going r') :
    (going r).executed host n = n ∧ ((going r).trace host n).length = n := by
  induction n generalizing r with
  | zero => exact ⟨rfl, rfl⟩
  | succ n ih =>
    obtain ⟨r₁, htick, hrest⟩ := advance_succ_going h
    obtain ⟨count, length⟩ := ih hrest
    obtain ⟨i, hi⟩ := Run.exists_instruction? htick
    simp [executed, trace, htick, Run.executes_of_going htick, hi, count, length, Nat.add_comm]

theorem ended_unique {host : Host σ} {n k : Nat} {p : Progress σ} {o o' : Outcome}
    {s s' : Session} {w w' : World σ} (h : p.advance host n = .ended o s w)
    (h' : p.advance host k = .ended o' s' w') : (ended o s w : Progress σ) = .ended o' s' w' := by
  have later : p.advance host (n + k) = .ended o s w := by rw [advance_add, h, advance_ended]
  have later' : p.advance host (k + n) = .ended o' s' w' := by rw [advance_add, h', advance_ended]
  rw [← later, ← later', Nat.add_comm]

end Progress

section

variable {host : Host σ} {n : Nat} {r : Run σ}

theorem Run.spent_under (r : Run σ) (n : Nat) :
    (r.under (some n)).spent = if n ≤ r.ticks then some n else none := by
  by_cases h : n ≤ r.ticks <;> simp [spent, under, Session.under, Option.filter, h]

theorem Run.spent_free (free : r.session.maxTicks = none) : r.spent = none := by
  rw [spent, free]
  rfl

theorem Run.tick_under (host : Host σ) (free : r.session.maxTicks = none) (within : r.ticks < n) :
    (r.under (some n)).tick host = (r.tick host).under (some n) := by
  have unspent : (r.under (some n)).spent = none := by
    rw [spent_under, if_neg (Nat.not_le.mpr within)]
  have step : (r.under (some n)).session.machine.step (r.under (some n)).session.script host
      (r.under (some n)).world = r.session.machine.step r.session.script host r.world := rfl
  have atEnd : (r.under (some n)).session.machine.atEnd (r.under (some n)).session.script.code =
      r.session.machine.atEnd r.session.script.code := rfl
  simp only [tick, Session.step, unspent, spent_free free, step, atEnd]
  cases r.session.machine.atEnd r.session.script.code with
  | true => rfl
  | false =>
    cases r.session.machine.step r.session.script host r.world with
    | mk outcome rest =>
      cases outcome with
      | continuing =>
        simp only [Bool.false_eq_true, ↓reduceIte]
        split <;> rfl
      | halted | failed => rfl

theorem Run.free_of_tick {r' : Run σ} (free : r.session.maxTicks = none)
    (h : r.tick host = .going r') : r'.session.maxTicks = none ∧ r'.ticks = r.ticks + 1 := by
  obtain ⟨-, hticks, hsession⟩ := Progress.advance_going (n := 1) h
  rw [hsession]
  exact ⟨free, hticks⟩

theorem Run.instruction?_under (free : r.session.maxTicks = none) (within : r.ticks < n) :
    (r.under (some n)).instruction? = r.instruction? := by
  simp only [instruction?, spent_under, if_neg (Nat.not_le.mpr within), spent_free free]
  rfl

theorem Run.executes_under (free : r.session.maxTicks = none) (within : r.ticks < n) :
    (r.under (some n)).executes = r.executes := by
  simp only [executes, spent_under, if_neg (Nat.not_le.mpr within), spent_free free]
  rfl

theorem Progress.lockstep (host : Host σ) {k : Nat} (free : r.session.maxTicks = none)
    (within : r.ticks + k ≤ n) :
    let limited := going (r.under (some n))
    limited.advance host k = ((going r).advance host k).under (some n) ∧
      limited.trace host k = (going r).trace host k ∧
      limited.executed host k = (going r).executed host k := by
  -- Only the machine and the count of ticks change from one tick to the next.
  induction k generalizing r with
  | zero => exact ⟨rfl, rfl, rfl⟩
  | succ k ih =>
    have before : r.ticks < n := by omega
    have tick := Run.tick_under host free before
    simp only [advance, trace, executed, tick, Run.instruction?_under free before,
      Run.executes_under free before]
    cases hp : r.tick host with
    | ended outcome s w => simp [under, advance_ended, trace_ended, executed_ended]
    | going r' =>
      obtain ⟨free', hticks⟩ := Run.free_of_tick free hp
      obtain ⟨hadvance, htrace, hexecuted⟩ := ih free' (by omega)
      simp [under, hadvance, htrace, hexecuted]

/-- The tick that finds the budget spent executes nothing. At the end of the code it ends the
run as it would have without the budget. -/
theorem Run.tick_spent (host : Host σ) (used : n ≤ r.ticks) :
    (r.under (some n)).executes = false ∧ (r.under (some n)).instruction? = none ∧
      (r.under (some n)).tick host =
        if r.session.machine.atEnd r.session.script.code then
          .ended .completed (r.session.under (some n)) r.world
        else abandon (r.session.under (some n)) r.world (.tickLimitExceeded n) := by
  have spent : (r.under (some n)).spent = some n := by rw [spent_under, if_pos used]
  refine ⟨?_, ?_, ?_⟩
  · simp [executes, spent]
  · simp [instruction?, spent]
  · simp only [tick, spent]
    rfl

namespace Progress

theorem limited_cases (host : Host σ) (free : r.session.maxTicks = none) (fresh : r.ticks = 0)
    (n : Nat) :
    (going (r.under (some n))).executed host (n + 1) = (going r).executed host n ∧
    (going (r.under (some n))).trace host (n + 1) = (going r).trace host n ∧
    ((∃ outcome s w, (going r).advance host (n + 1) = .ended outcome s w ∧
        (going r).executed host (n + 1) ≤ n ∧
        (going (r.under (some n))).advance host (n + 1) =
          .ended outcome (s.under (some n)) w) ∨
      ∃ r', (going r).advance host n = .going r' ∧ (going r).executed host (n + 1) = n + 1 ∧
        (going (r.under (some n))).advance host (n + 1) =
          Run.abandon (r'.session.under (some n)) r'.world (.tickLimitExceeded n)) := by
  obtain ⟨hadvance, htrace, hexecuted⟩ := lockstep host (k := n) (n := n) free (by omega)
  simp only [advance_add host n 1, trace_add host n 1, executed_add host n 1, hadvance, htrace,
    hexecuted]
  cases hp : (going r).advance host n with
  | ended outcome s w =>
    have bound := executed_le host n (going r)
    simp [under, executed_ended, trace_ended, advance_ended, bound]
  | going r' =>
    obtain ⟨-, hticks, hsession⟩ := advance_going hp
    have used : n ≤ r'.ticks := by omega
    obtain ⟨executes, instruction, tick⟩ := Run.tick_spent host used
    have hfree : r'.session.maxTicks = none := by
      rw [hsession]
      exact free
    have count := (executed_going hp).1
    simp only [under, executed, trace, advance, executes, instruction, tick, count]
    -- Without the budget the next tick either finds the end of the code or executes more.
    cases hend : r'.session.machine.atEnd r'.session.script.code with
    | true =>
      have last : r'.tick host = .ended .completed r'.session r'.world := by simp [Run.tick, hend]
      simp [last, Run.executes, hend]
    | false =>
      have more : r'.executes = true := by simp [Run.executes, hend, Run.spent_free hfree]
      simp [more]

end Progress

end

theorem Run.executes_mirrors {view : τ → σ} {r' : Run τ} {r : Run σ} (h : r'.Mirrors view r) :
    r'.executes = r.executes := by
  rw [executes, executes, h.atEnd, h.spent]

theorem Progress.executed_mirrors {view : τ → σ} {host' : Host τ} {host : Host σ}
    (mimics : host'.Mimics view host) {p' : Progress τ} {p : Progress σ}
    (h : Progress.Mirrors view p' p) (n : Nat) : p'.executed host' n = p.executed host n := by
  induction n generalizing p' p with
  | zero => rfl
  | succ n ih =>
    cases h with
    | ended outcome alike hworld => rfl
    | going h => rw [executed, executed, Run.executes_mirrors h, ih (Run.tick_mirrors mimics h)]

def Run.recording (r : Run σ) : Run (σ × List Request) :=
  { session := r.session, world := r.world.recording, base := r.base, ticks := r.ticks }

theorem Run.mirrors_recording (r : Run σ) : r.recording.Mirrors Prod.fst r :=
  ⟨r.session.alike_refl, rfl, r.world.mirrors_recording, rfl, rfl⟩

def Run.requests (host : Host σ) (ticks : Nat) (r : Run σ) : List Request :=
  ((Progress.going r.recording).advance host.recorded ticks).world.host.2

section

variable {host : Host σ} {r : Run σ} {n ticks : Nat} {outcome : Outcome} {s : Session} {w : World σ}

namespace Progress

theorem recorded_mirrors (host : Host σ) (r : Run σ) (ticks : Nat) :
    Progress.Mirrors Prod.fst ((going r.recording).advance host.recorded ticks)
        ((going r).advance host ticks) ∧
      (going r.recording).executed host.recorded ticks = (going r).executed host ticks :=
  ⟨advance_mirrors host.mimics_recorded (.going r.mirrors_recording) ticks,
    executed_mirrors host.mimics_recorded (.going r.mirrors_recording) ticks⟩

theorem lt_executed_of_ended {p : Progress σ} (more : p.executed host (n + 1) = n + 1)
    (ended : p.advance host ticks = .ended outcome s w) : n < p.executed host ticks := by
  rcases Nat.lt_or_ge n ticks with later | earlier
  · obtain ⟨k, rfl⟩ := Nat.exists_eq_add_of_le (Nat.succ_le_of_lt later)
    rw [executed_add, Nat.succ_eq_add_one, more]
    omega
  · obtain ⟨k, hk⟩ := Nat.exists_eq_add_of_le (Nat.le_succ_of_le earlier)
    rw [Nat.succ_eq_add_one] at hk
    rw [hk, executed_add, ended, executed_ended] at more
    omega

theorem limited_of_executed_le (free : r.session.maxTicks = none) (fresh : r.ticks = 0)
    (ended : (going r).advance host ticks = .ended outcome s w)
    (enough : (going r).executed host ticks ≤ n) :
    (going (r.under (some n))).advance host (n + 1) = .ended outcome (s.under (some n)) w := by
  obtain ⟨-, -, ⟨_, _, _, hended, -, hlimited⟩ | ⟨_, -, more, -⟩⟩ :=
    limited_cases host free fresh n
  · cases ended_unique ended hended
    exact hlimited
  · exact absurd enough (Nat.not_le.mpr (lt_executed_of_ended more ended))

theorem limited_of_lt_executed (free : r.session.maxTicks = none) (fresh : r.ticks = 0)
    (short : ∀ ticks outcome s w, (going r).advance host ticks = .ended outcome s w →
      n < (going r).executed host ticks) :
    ∃ r', (going r).advance host n = .going r' ∧
      (going (r.under (some n))).advance host (n + 1) =
        Run.abandon (r'.session.under (some n)) r'.world (.tickLimitExceeded n) := by
  obtain ⟨-, -, ⟨_, _, _, hended, enough, -⟩ | ⟨r', hgoing, -, hlimited⟩⟩ :=
    limited_cases host free fresh n
  · exact absurd (short _ _ _ _ hended) (Nat.not_lt.mpr enough)
  · exact ⟨r', hgoing, hlimited⟩

theorem executed_limited_le (host : Host σ) (free : r.session.maxTicks = none)
    (fresh : r.ticks = 0) (n ticks : Nat) :
    (going (r.under (some n))).executed host ticks ≤ n := by
  obtain ⟨count, -, ended⟩ := limited_cases host free fresh n
  have bound := executed_le host n (going r)
  rcases Nat.lt_or_ge n ticks with later | earlier
  · obtain ⟨k, rfl⟩ := Nat.exists_eq_add_of_le (Nat.succ_le_of_lt later)
    have nothing : ((going (r.under (some n))).advance host (n + 1)).executed host k = 0 := by
      rcases ended with ⟨_, _, _, -, -, hlimited⟩ | ⟨_, -, -, hlimited⟩ <;>
        rw [hlimited] <;> exact executed_ended ..
    rw [executed_add, Nat.succ_eq_add_one, count, nothing]
    exact bound
  · exact Nat.le_trans (executed_le host ticks _) earlier

theorem requests_of_executed_le (free : r.session.maxTicks = none) (fresh : r.ticks = 0)
    (ended : (going r).advance host ticks = .ended outcome s w)
    (enough : (going r).executed host ticks ≤ n) :
    (r.under (some n)).requests host (n + 1) = r.requests host ticks := by
  obtain ⟨mirrors, same⟩ := recorded_mirrors host r ticks
  obtain ⟨s', w', hrecorded⟩ := (mirrors.exists_ended outcome).mpr ⟨s, w, ended⟩
  rw [← same] at enough
  have limited : (going (r.under (some n)).recording).advance host.recorded (n + 1) = _ :=
    limited_of_executed_le (r := r.recording) free fresh hrecorded enough
  rw [Run.requests, Run.requests, limited, hrecorded]
  rfl

theorem requests_of_lt_executed (free : r.session.maxTicks = none) (fresh : r.ticks = 0)
    (short : ∀ ticks outcome s w, (going r).advance host ticks = .ended outcome s w →
      n < (going r).executed host ticks) :
    (r.under (some n)).requests host (n + 1) = r.requests host n := by
  have shortRecorded (ticks : Nat) (outcome : Outcome) (s' : Session)
      (w' : World (σ × List Request))
      (ended : (going r.recording).advance host.recorded ticks = .ended outcome s' w') :
      n < (going r.recording).executed host.recorded ticks := by
    obtain ⟨mirrors, same⟩ := recorded_mirrors host r ticks
    obtain ⟨s, w, hended⟩ := (mirrors.exists_ended outcome).mp ⟨s', w', ended⟩
    rw [same]
    exact short ticks outcome s w hended
  obtain ⟨r', hgoing, hlimited⟩ :=
    limited_of_lt_executed (r := r.recording) free fresh shortRecorded
  have limited : (going (r.under (some n)).recording).advance host.recorded (n + 1) = _ := hlimited
  rw [Run.requests, Run.requests, limited, hgoing]
  rfl

end Progress

end

open Progress in
/-- A budget of ticks is exact, and can be seen in nothing else. From whatever state a run
starts, with a budget of `n` it ends, and executes at most `n` instructions. If without a
budget it ends after as many at most, the budget makes no difference to the outcome, to the
state or to the requests. If it ends later or never, the budget has cut it off after its
first `n` instructions and their requests. -/
theorem budget_exact (host : Host σ) (s : Session) (w : World σ) (base n : Nat) :
    let free : Run σ := { session := s.under none, world := w, base }
    let limited : Run σ := { session := s.under (some n), world := w, base }
    (∃ outcome s' w', (going limited).advance host (n + 1) = .ended outcome s' w') ∧
    (∀ ticks, (going limited).executed host ticks ≤ n) ∧
    (∀ ticks outcome s' w', (going free).advance host ticks = .ended outcome s' w' →
      (going free).executed host ticks ≤ n →
        (going limited).advance host (n + 1) = .ended outcome (s'.under (some n)) w' ∧
        limited.requests host (n + 1) = free.requests host ticks) ∧
    ((∀ ticks outcome s' w', (going free).advance host ticks = .ended outcome s' w' →
      n < (going free).executed host ticks) →
        (∃ r, (going free).advance host n = .going r ∧
          (going limited).advance host (n + 1) =
            Run.abandon (r.session.under (some n)) r.world (.tickLimitExceeded n)) ∧
        (going limited).executed host (n + 1) = n ∧
        ((going free).trace host n).length = n ∧
        (going limited).trace host (n + 1) = (going free).trace host n ∧
        limited.requests host (n + 1) = free.requests host n) := by
  intro free limited
  have cut : limited = free.under (some n) := rfl
  rw [cut]
  have unlimited : free.session.maxTicks = none := rfl
  have fresh : free.ticks = 0 := rfl
  obtain ⟨count, same, ended⟩ := limited_cases host unlimited fresh n
  refine ⟨?_, executed_limited_le host unlimited fresh n, ?_, ?_⟩
  · rcases ended with ⟨_, _, _, -, -, hlimited⟩ | ⟨_, -, -, hlimited⟩
    · exact ⟨_, _, _, hlimited⟩
    · exact ⟨_, _, _, hlimited⟩
  · intro ticks outcome s' w' hended enough
    exact ⟨limited_of_executed_le unlimited fresh hended enough,
      requests_of_executed_le unlimited fresh hended enough⟩
  · intro short
    obtain ⟨r, hgoing, hlimited⟩ := limited_of_lt_executed unlimited fresh short
    obtain ⟨all, length⟩ := executed_going hgoing
    exact ⟨⟨r, hgoing, hlimited⟩, count.trans all, length, same,
      requests_of_lt_executed unlimited fresh short⟩

def spinScript : Container where
  name := "spin"
  code :=
    let body := Block.ofSteps [.here, .address ⟨0⟩, .plain .jump]
    (Draft.ofSteps [.procedure { name := "spin", body }]).build.toArray
  procedures := #[⟨"spin", ⟨0⟩, 0, 0, 90, 0⟩]
  identifiers := [⟨6, "spin"⟩]
  strings := []

theorem spin_cut_off :
    let session : Session := { script := spinScript, machine := { position := 90 } }
    let run : Run Unit := { session := session.under (some 3), world := { host := () }, base := 0 }
    Container.decode "spin" spinScript.code = .ok spinScript ∧
    (∃ s w, (Progress.going run).advance Refusing.host 4 =
      .ended (.aborted (.tickLimitExceeded 3)) s w) ∧
    (Progress.going run).executed Refusing.host 4 = 3 := by
  intro session run
  obtain ⟨-, -, -, cut⟩ := budget_exact Refusing.host session { host := () } 0 3
  obtain ⟨⟨r, -, hlimited⟩, count, -⟩ := cut fun ticks _ _ _ ended =>
    Progress.lt_executed_of_ended (by decide +kernel) ended
  exact ⟨by decide +kernel, ⟨_, _, hlimited⟩, count⟩

end ScriptMachine
