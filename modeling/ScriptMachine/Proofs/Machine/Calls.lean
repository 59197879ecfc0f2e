import ScriptMachine.Host.Refusing
import ScriptMachine.Proofs.Machine.Stepping

/-!
# What instructions do to the call stack

An instruction pushes at most one entry on the call stack or takes at most one off, and
leaves the others alone. An entry stays what it is until it is dropped. A return that drops
an entry has found its operands on the data stack, and if the entry is an address of the
code, it succeeds.
-/

namespace ScriptMachine

theorem Framed.calls_cases {m m' : Machine} {op : Opcode} (h : Framed m op m') :
    m'.calls = m.calls ∨ (∃ v, m'.calls = v :: m.calls) ∨ ∃ v, m.calls = v :: m'.calls := by
  cases h with
  | plain | criticalStart | criticalDone | exitProg | scriptOverrides | setGlobal | setLocalVar =>
    exact .inl rfl
  | dataToReturn | call | pushBase => exact .inr (.inl ⟨_, rfl⟩)
  | returnToData _ calls hcalls | ret _ calls hcalls | popBase _ calls hcalls =>
    exact .inr (.inr ⟨_, hcalls⟩)

namespace Instruction

def leaves (script : Container) (i : Instruction) : Machine :=
  (i.machine.execute script Refusing.host i.opcode.code { host := () }).2.1

theorem calls_leaves (script : Container) (i : Instruction) :
    (i.leaves script).calls = ((Exec.perform script i.opcode).left i.machine).calls := by
  rw [leaves, Machine.execute_of_some _ _ _ i.opcode.ofCode?_code, Exec.left]
  cases Exec.perform script i.opcode i.machine with
  | error e m => rfl
  | ok turn m =>
    obtain ⟨_, v, _, hsettle, -⟩ := m.settle_cases Refusing.host turn { host := () }
    rw [Machine.finish, hsettle]
    cases v <;> rfl

/-- An instruction takes off an entry of the call stack, counted from the bottom. It may do so
and fail. -/
def Drops (script : Container) (i : Instruction) (entry : Nat) : Prop :=
  entry < i.machine.calls.length ∧ (i.leaves script).calls.length ≤ entry

instance (script : Container) (i : Instruction) (entry : Nat) : Decidable (i.Drops script entry) :=
  inferInstanceAs (Decidable (_ ∧ _))

end Instruction

variable {σ : Type} {script : Container} {host : Host σ} {m m' : Machine} {i : Instruction}

def Steps (script : Container) (host : Host σ) (m : Machine) (i : Instruction) (m' : Machine) :
    Prop :=
  m.instruction? script = some i ∧ ∃ w w', m.step script host w = (.continuing, m', w')

namespace Steps

theorem framed (h : Steps script host m i m') :
    ∃ m₁, Framed i.machine i.opcode m₁ ∧ Machine.Beside m₁ m' ∧
      (i.leaves script).calls = m'.calls := by
  obtain ⟨hi, w, w', hstep⟩ := h
  obtain ⟨j, e, turn, m₂, hj, hperform, hsettle⟩ := Machine.step_performed hstep nofun
  obtain rfl := Option.some_inj.mp (hi.symm.trans hj)
  obtain ⟨m₁, framed, beside⟩ := Exec.perform_framed hperform
  obtain ⟨_, v, _, hsettle', -⟩ := Machine.settle_cases host turn m₂ (w.note e)
  rw [hsettle'] at hsettle
  cases hsettle
  refine ⟨m₁, framed, beside.trans (Machine.beside_receive m₂ v), ?_⟩
  rw [i.calls_leaves, Exec.left, hperform]
  cases v <;> rfl

theorem calls_machine (h : Steps script host m i m') : i.machine.calls = m.calls :=
  Machine.calls_of_instruction? h.1

theorem frameBase_machine (h : Steps script host m i m') : i.machine.frameBase = m.frameBase :=
  Machine.frameBase_of_instruction? h.1

theorem calls_cases (h : Steps script host m i m') :
    m'.calls = m.calls ∨ (∃ v, m'.calls = v :: m.calls) ∨ ∃ v, m.calls = v :: m'.calls := by
  obtain ⟨m₁, framed, ⟨data, position, rfl⟩, -⟩ := h.framed
  rw [← h.calls_machine]
  exact framed.calls_cases

variable {saved : Value} {below : Stack}

theorem keeps_entry (h : Steps script host m i m') (has : saved :: below <:+ m.calls)
    (kept : ¬ i.Drops script below.length) : saved :: below <:+ m'.calls := by
  rcases h.calls_cases with same | ⟨v, pushed⟩ | ⟨v, popped⟩
  · rwa [same]
  · rw [pushed]
    exact has.trans (List.suffix_cons v m.calls)
  · -- If what is popped were the entry itself, it would be dropped.
    rw [popped, List.suffix_cons_iff] at has
    rcases has with top | rest
    · obtain ⟨-, rfl⟩ := List.cons.inj top
      obtain ⟨_, _, _, hleaves⟩ := h.framed
      refine absurd ⟨?_, ?_⟩ kept
      · rw [h.calls_machine, popped]
        exact Nat.lt_succ_self _
      · exact Nat.le_of_eq (congrArg List.length hleaves)
    · exact rest

theorem drops_entry (h : Steps script host m i m') (has : saved :: below <:+ m.calls)
    (dropped : i.Drops script below.length) : m.calls = saved :: below ∧ m'.calls = below := by
  obtain ⟨_, _, _, hleaves⟩ := h.framed
  have short := dropped.2
  rw [hleaves] at short
  have deep := has.length_le
  rw [List.length_cons] at deep
  rcases h.calls_cases with same | ⟨v, pushed⟩ | ⟨v, popped⟩
  · rw [same] at short
    omega
  · rw [pushed, List.length_cons] at short
    omega
  · rw [popped, List.suffix_cons_iff] at has
    rcases has with top | rest
    · rw [popped, ← top]
      exact ⟨rfl, (List.cons.inj top).2.symm⟩
    · have := rest.length_le
      rw [List.length_cons] at this
      omega

theorem pushBase (h : Steps script host m i m') (op : i.opcode = .pushBase) :
    m'.calls = .ofNat m.frameBase :: m.calls := by
  obtain ⟨m₁, framed, ⟨data, position, rfl⟩, -⟩ := h.framed
  rw [op] at framed
  rw [← h.calls_machine, ← h.frameBase_machine]
  cases framed with
  | plain plain => contradiction
  | pushBase => rfl

theorem popBase (h : Steps script host m i m') (op : i.opcode = .popBase) :
    ∃ base, m.calls = .int base :: m'.calls ∧ 0 ≤ base.toInt ∧
      m'.frameBase = base.toInt.toNat := by
  obtain ⟨m₁, framed, ⟨data, position, rfl⟩, -⟩ := h.framed
  rw [op] at framed
  rw [← h.calls_machine]
  cases framed with
  | plain plain => contradiction
  | popBase base calls hcalls positive => exact ⟨base, hcalls, positive, rfl⟩

theorem frameBase_of_ne (h : Steps script host m i m') (push : i.opcode ≠ .pushBase)
    (pop : i.opcode ≠ .popBase) : m'.frameBase = m.frameBase := by
  obtain ⟨m₁, framed, ⟨data, position, rfl⟩, -⟩ := h.framed
  rw [← h.frameBase_machine]
  obtain ⟨op, machine⟩ := i
  cases framed <;> first | rfl | contradiction

theorem call (h : Steps script host m i m') (op : i.opcode = .call) :
    m'.calls = .ofNat i.machine.position :: m.calls := by
  obtain ⟨m₁, framed, ⟨data, position, rfl⟩, -⟩ := h.framed
  rw [op] at framed
  rw [← h.calls_machine]
  cases framed with
  | plain plain => contradiction
  | call => rfl

end Steps

namespace Exec

variable {α β γ : Type} {f : Machine → γ} {x : Exec α} {k : α → Exec β}

theorem Keeps.ok_of_left (hx : Keeps f x) (h : f ((x >>= k).left m) ≠ f m) :
    ∃ a m', x m = .ok a m' ∧ f ((k a).left m') ≠ f m' := by
  have kept := hx m
  simp only [left, Bind.bind, EStateM.bind] at h kept
  cases hm : x m with
  | ok a m' =>
    rw [hm] at h kept
    refine ⟨a, m', rfl, ?_⟩
    rw [kept]
    exact h
  | error e m' =>
    rw [hm] at h kept
    exact absurd kept h

theorem left_guard {c : Prop} [Decidable c] {e : Fault} {x : Exec α}
    (h : f (left (if c then (throw e : Exec Unit) >>= fun _ => x else pure () >>= fun _ => x) m) ≠
      f m) : ¬ c ∧ f (x.left m) ≠ f m := by
  split at h
  · exact absurd rfl h
  · exact ⟨‹_›, h⟩

def Uncalls (x : Exec α) : Prop := ∀ m, (x.left m).calls = m.calls ∨ (x.left m).calls = m.calls.tail

theorem Keeps.uncalls (hx : Keeps (·.calls) x) (hk : ∀ a, Uncalls (k a)) : Uncalls (x >>= k) := by
  intro m
  have kept := hx m
  simp only [left, Bind.bind, EStateM.bind] at kept ⊢
  cases hm : x m with
  | ok a m' =>
    rw [hm] at kept
    rw [← kept]
    exact hk a m'
  | error e m' =>
    rw [hm] at kept
    exact .inl kept

theorem Uncalls.guard {c : Prop} [Decidable c] {e : Fault} {x : Exec α} (hx : Uncalls x) :
    Uncalls (if c then (throw e : Exec Unit) >>= fun _ => x else pure () >>= fun _ => x) := by
  intro m
  split
  · exact .inl rfl
  · exact hx m

theorem uncalls_popAddress {k : Int64 → Exec β} (hk : ∀ a, Keeps (·.calls) (k a)) :
    Uncalls (onCalls Stack.popInteger >>= k) := by
  intro m
  refine .inr ?_
  simp only [left, Bind.bind, EStateM.bind, onCalls]
  cases m.calls with
  | nil => rfl
  | cons v rest =>
    cases v with
    | int n => exact hk n { m with calls := rest }
    | _ => rfl

theorem remote_calls : Remote (·.calls) := ⟨fun _ _ => rfl, fun _ _ => rfl⟩

theorem uncalls_ret (code : Array UInt8) : Uncalls (ret code) := by
  have remote := remote_calls
  apply (keeps_pop remote.data).uncalls
  intro result
  apply (keeps_popInteger remote.data).uncalls
  intro count
  apply Uncalls.guard
  apply (keeps_onData remote.data _).uncalls
  intro _
  apply uncalls_popAddress
  exact fun address => (keeps_push remote.data _).bind fun _ => keeps_jump remote _ _

theorem operands_of_ret {code : Array UInt8} (h : ((ret code).left m).calls ≠ m.calls) :
    ∃ result count rest, m.data = result :: .int count :: rest ∧ 0 ≤ count.toInt ∧
      count.toInt.toNat ≤ rest.length := by
  have remote := remote_calls
  obtain ⟨result, m₁, hpop, h⟩ := (keeps_pop remote.data).ok_of_left h
  obtain ⟨data₁, hdata₁, rfl⟩ := pop_eq_ok.mp hpop
  obtain ⟨count, m₂, hcount, h⟩ := (keeps_popInteger remote.data).ok_of_left h
  obtain ⟨rest, hrest, rfl⟩ := popInteger_eq_ok.mp hcount
  obtain ⟨positive, h⟩ := left_guard h
  obtain ⟨_, m₃, hdrop, -⟩ := (keeps_onData remote.data _).ok_of_left h
  obtain ⟨data₃, hdata₃, rfl⟩ := onData_eq_ok.mp hdrop
  obtain ⟨enough, rfl⟩ := Stack.dropMany_eq_ok.mp hdata₃
  refine ⟨result, count, rest, ?_, Int.not_lt.mp positive, enough⟩
  rw [hdata₁]
  exact congrArg _ hrest

end Exec

theorem Instruction.ret_of_drops {address : Int64} {below : Stack} (op : i.opcode = .ret)
    (has : .int address :: below <:+ i.machine.calls) (dropped : i.Drops script below.length)
    (inside : 0 ≤ address.toInt ∧ address.toInt < script.code.size) :
    ∃ result count rest, i.machine.data = result :: .int count :: rest ∧
      Exec.perform script i.opcode i.machine = .ok .next { i.machine with
        data := result :: rest.drop count.toInt.toNat
        calls := below
        position := address.toInt.toNat } := by
  obtain ⟨deep, short⟩ := dropped
  rw [calls_leaves, op, Exec.perform, Exec.left_next] at short
  have changed : ((Exec.ret script.code).left i.machine).calls ≠ i.machine.calls := by
    intro same
    rw [same] at short
    omega
  -- So it has come as far as the call stack, with an entry on top that leads into the code.
  have tail := (Exec.uncalls_ret script.code i.machine).resolve_left changed
  obtain ⟨result, count, rest, hdata, positive, enough⟩ := Exec.operands_of_ret changed
  obtain ⟨top, calls, hcalls⟩ := List.exists_cons_of_length_pos (Nat.zero_lt_of_lt deep)
  rw [tail, hcalls, List.tail_cons] at short
  have hcalls : i.machine.calls = .int address :: below := by
    rw [hcalls, List.suffix_cons_iff] at has
    rcases has with same | rest
    · rw [hcalls, same]
    · have := rest.length_le
      rw [List.length_cons] at this
      omega
  refine ⟨result, count, rest, hdata, ?_⟩
  rw [op]
  exact Exec.next_eq_ok.mpr ⟨rfl, Exec.ret_eq_ok.mpr
    ⟨result, count, rest, address, below, ⟨hdata, positive, enough⟩, ⟨hcalls, inside⟩, rfl⟩⟩

end ScriptMachine
