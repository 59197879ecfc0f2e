import Mathlib.Tactic.Common
import ScriptMachine.Proofs.Machine.Deferred

/-!
# When work succeeds

For each piece of work, what the machine must be like for it to succeed, and the machine
it leaves. A program of several pieces is taken apart from the front.
-/

namespace ScriptMachine

section

variable {σ α β : Type} {s s' : σ}

theorem bind_eq_ok {x : EStateM Fault σ α} {k : α → EStateM Fault σ β} {b : β} :
    (x >>= k) s = .ok b s' ↔ ∃ a s₁, x s = .ok a s₁ ∧ k a s₁ = .ok b s' := by
  simp only [Bind.bind, EStateM.bind]
  cases h : x s with
  | ok a s₁ => simp
  | error e s₁ => simp

theorem bind_of_ok {x : EStateM Fault σ α} {k : α → EStateM Fault σ β} {a : α}
    (h : x s = .ok a s') : (x >>= k) s = k a s' := by
  simp only [Bind.bind, EStateM.bind, h]

theorem bind_of_error {x : EStateM Fault σ α} {k : α → EStateM Fault σ β} {e : Fault}
    (h : x s = .error e s') : (x >>= k) s = .error e s' := by
  simp only [Bind.bind, EStateM.bind, h]

theorem pure_eq_ok {a b : α} : (pure a : EStateM Fault σ α) s = .ok b s' ↔ b = a ∧ s' = s := by
  simp [Pure.pure, EStateM.pure, eq_comm]

theorem throw_ne_ok {e : Fault} {b : α} : (throw e : EStateM Fault σ α) s ≠ .ok b s' := nofun

theorem modify_eq_ok {g : σ → σ} {u : Unit} :
    (modify g : EStateM Fault σ Unit) s = .ok u s' ↔ s' = g s := by
  change EStateM.Result.ok () (g s) = .ok u s' ↔ _
  simp [eq_comm]

theorem get_eq_ok {b : σ} : (get : EStateM Fault σ σ) s = .ok b s' ↔ b = s ∧ s' = s := by
  change EStateM.Result.ok s s = .ok b s' ↔ _
  simp [eq_comm]

theorem guard_eq_ok {c : Prop} [Decidable c] {e : Fault} {x : EStateM Fault σ α} {b : α} :
    (if c then (throw e : EStateM Fault σ Unit) >>= fun _ => x else pure () >>= fun _ => x) s =
      .ok b s' ↔ ¬ c ∧ x s = .ok b s' := by
  split
  · rename_i hc
    exact ⟨nofun, fun h => absurd hc h.1⟩
  · rename_i hc
    exact ⟨fun h => ⟨hc, h⟩, fun h => h.2⟩

end

end ScriptMachine

namespace ScriptMachine.Exec

variable {α : Type} {m m' : Machine}

/-! The stacks. -/

theorem onData_eq_ok {w : Stack.Work α} {a : α} :
    onData w m = .ok a m' ↔ ∃ s, w m.data = .ok a s ∧ m' = { m with data := s } := by
  rw [onData]
  cases w m.data with
  | ok b s =>
    constructor
    · intro h
      cases h
      exact ⟨s, rfl, rfl⟩
    · intro h
      obtain ⟨_, ⟨⟩, rfl⟩ := h
      rfl
  | error e s => simp

theorem onCalls_eq_ok {w : Stack.Work α} {a : α} :
    onCalls w m = .ok a m' ↔ ∃ s, w m.calls = .ok a s ∧ m' = { m with calls := s } := by
  rw [onCalls]
  cases w m.calls with
  | ok b s =>
    constructor
    · intro h
      cases h
      exact ⟨s, rfl, rfl⟩
    · intro h
      obtain ⟨_, ⟨⟩, rfl⟩ := h
      rfl
  | error e s => simp

end ScriptMachine.Exec

namespace ScriptMachine.Stack

variable {s s' : Stack}

theorem push_eq_ok {v : Value} {u : Unit} : push v s = .ok u s' ↔ s' = v :: s := by
  change EStateM.Result.ok () (v :: s) = .ok u s' ↔ _
  simp [eq_comm]

theorem pop_eq_ok {v : Value} : pop s = .ok v s' ↔ s = v :: s' := by
  cases s with
  | nil =>
    change EStateM.Result.error Fault.stackUnderflow [] = .ok v s' ↔ _
    simp
  | cons w rest =>
    change EStateM.Result.ok w rest = .ok v s' ↔ _
    simp

theorem top_eq_ok {v : Value} : top s = .ok v s' ↔ s' = s ∧ s.head? = some v := by
  cases s with
  | nil =>
    change EStateM.Result.error Fault.stackUnderflow [] = .ok v s' ↔ _
    simp
  | cons w rest =>
    change EStateM.Result.ok w (w :: rest) = .ok v s' ↔ _
    simp [eq_comm, and_comm]

theorem popAs_eq_ok {α : Type} {expected : Expectation} {view : Value → Option α} {a : α} :
    popAs expected view s = .ok a s' ↔ ∃ v, s = v :: s' ∧ view v = some a := by
  rw [popAs, bind_eq_ok]
  constructor
  · intro h
    obtain ⟨v, s₁, hpop, h⟩ := h
    cases hview : view v with
    | some b =>
      simp only [hview] at h
      obtain ⟨rfl, rfl⟩ := pure_eq_ok.mp h
      exact ⟨v, pop_eq_ok.mp hpop, hview⟩
    | none =>
      simp only [hview] at h
      exact absurd h throw_ne_ok
  · intro h
    obtain ⟨v, hs, hview⟩ := h
    refine ⟨v, s', pop_eq_ok.mpr hs, ?_⟩
    simp only [hview]
    rfl

theorem popInteger_eq_ok {n : Int64} : popInteger s = .ok n s' ↔ s = .int n :: s' := by
  rw [popInteger, popAs_eq_ok]
  constructor
  · intro h
    obtain ⟨v, rfl, h⟩ := h
    cases v <;> cases h
    rfl
  · intro h
    obtain rfl := h
    exact ⟨_, rfl, rfl⟩

theorem popLogical_eq_ok {b : Bool} :
    popLogical s = .ok b s' ↔ ∃ v, s = v :: s' ∧ v.isTrue = b := by
  cases s with
  | nil =>
    change EStateM.Result.error Fault.stackUnderflow [] = .ok b s' ↔ _
    simp
  | cons v rest =>
    change EStateM.Result.ok v.isTrue rest = .ok b s' ↔ _
    simp [and_comm]

theorem dropMany_eq_ok {n : Nat} {u : Unit} :
    dropMany n s = .ok u s' ↔ n ≤ s.length ∧ s' = s.drop n := by
  change (if s.length < n then (throw .stackUnderflow : Work Unit) else pure ()) (s.drop n) =
    .ok u s' ↔ _
  split
  · rename_i h
    exact ⟨nofun, fun h' => absurd h'.1 (Nat.not_le.mpr h)⟩
  · rename_i h
    rw [pure_eq_ok, and_iff_right (Nat.not_lt.mp h)]
    exact and_iff_right rfl

theorem slot_eq_ok {index : Nat} {v : Value} :
    slot index s = .ok v s' ↔ s.bottomUp[index]? = some v ∧ s' = s := by
  rw [slot, bind_eq_ok]
  constructor
  · intro h
    obtain ⟨_, s₁, hget, h⟩ := h
    obtain ⟨rfl, rfl⟩ := get_eq_ok.mp hget
    cases hslot : s₁.bottomUp[index]? with
    | some w =>
      simp only [hslot] at h
      obtain ⟨rfl, rfl⟩ := pure_eq_ok.mp h
      exact ⟨rfl, rfl⟩
    | none =>
      simp only [hslot] at h
      exact absurd h throw_ne_ok
  · intro h
    obtain ⟨hslot, rfl⟩ := h
    refine ⟨s', s', rfl, ?_⟩
    simp only [hslot]
    rfl

theorem setSlot_eq_ok {index : Nat} {v : Value} {u : Unit} :
    setSlot index v s = .ok u s' ↔
      index < s.length ∧ s' = (s.bottomUp.set index v).reverse := by
  change (if index < s.length then (set (s.bottomUp.set index v).reverse : Work Unit)
    else throw (.slotOutOfRange (.ofNat index))) s = .ok u s' ↔ _
  split
  · rename_i h
    change EStateM.Result.ok () _ = .ok u s' ↔ _
    rw [and_iff_right h, EStateM.Result.ok.injEq, and_iff_right rfl, eq_comm]
  · rename_i h
    exact ⟨nofun, fun h' => absurd h'.1 h⟩

end ScriptMachine.Stack

namespace ScriptMachine.Exec

variable {α : Type} {m m' : Machine}

theorem push_eq_ok {v : Value} {u : Unit} :
    push v m = .ok u m' ↔ m' = { m with data := v :: m.data } := by
  simp [push, onData_eq_ok, Stack.push_eq_ok]

theorem pop_eq_ok {v : Value} :
    pop m = .ok v m' ↔ ∃ rest, m.data = v :: rest ∧ m' = { m with data := rest } := by
  simp [pop, onData_eq_ok, Stack.pop_eq_ok]

theorem pop_of_nil (h : m.data = []) : pop m = .error .stackUnderflow m := by
  obtain ⟨position, opcode, opcodeOffset, data⟩ := m
  obtain rfl : data = [] := h
  rfl

theorem popInteger_eq_ok {n : Int64} :
    popInteger m = .ok n m' ↔ ∃ rest, m.data = .int n :: rest ∧ m' = { m with data := rest } := by
  simp [popInteger, onData_eq_ok, Stack.popInteger_eq_ok]

theorem popLogical_eq_ok {b : Bool} :
    popLogical m = .ok b m' ↔
      ∃ v rest, (m.data = v :: rest ∧ v.isTrue = b) ∧ m' = { m with data := rest } := by
  rw [popLogical, onData_eq_ok]
  constructor
  · intro h
    obtain ⟨rest, hpop, rfl⟩ := h
    obtain ⟨v, hdata, htrue⟩ := Stack.popLogical_eq_ok.mp hpop
    exact ⟨v, rest, ⟨hdata, htrue⟩, rfl⟩
  · intro h
    obtain ⟨v, rest, ⟨hdata, htrue⟩, rfl⟩ := h
    exact ⟨rest, Stack.popLogical_eq_ok.mpr ⟨v, hdata, htrue⟩, rfl⟩

theorem next_eq_ok {x : Exec Unit} {t : Turn} :
    next x m = .ok t m' ↔ t = .next ∧ x m = .ok () m' := by
  rw [next, bind_eq_ok]
  constructor
  · intro h
    obtain ⟨_, m₁, hx, hnext⟩ := h
    obtain ⟨rfl, rfl⟩ := pure_eq_ok.mp hnext
    exact ⟨rfl, hx⟩
  · intro h
    obtain ⟨rfl, hx⟩ := h
    exact ⟨(), _, hx, rfl⟩

theorem next_eq_error {x : Exec Unit} {e : Fault} : next x m = .error e m' ↔ x m = .error e m' := by
  simp only [next, Bind.bind, EStateM.bind]
  cases x m with
  | ok a m₁ => simp [pure, EStateM.pure]
  | error e' m₁ => simp

theorem jump_eq_ok {code : Array UInt8} {address : Int64} {u : Unit} :
    jump code address m = .ok u m' ↔
      (0 ≤ address.toInt ∧ address.toInt < code.size) ∧
        m' = { m with position := address.toInt.toNat } := by
  rw [jump]
  split
  · rename_i h
    rw [modify_eq_ok, and_iff_right h]
  · rename_i h
    exact ⟨nofun, fun h' => absurd h'.1 h⟩

theorem operand_eq_ok {code : Array UInt8} {read : Reader.Work α} {a : α} :
    operand code read m = .ok a m' ↔
      ∃ r, read (m.reader code) = .ok a r ∧ m' = { m with position := r.position } := by
  rw [operand]
  cases read (m.reader code) with
  | ok b r =>
    constructor
    · intro h
      cases h
      exact ⟨r, rfl, rfl⟩
    · intro h
      obtain ⟨_, ⟨⟩, rfl⟩ := h
      rfl
  | error e r => simp

theorem localIndex_eq_ok {index : Int64} {i : Nat} :
    localIndex index m = .ok i m' ↔
      (0 ≤ index.toInt ∧ index.toInt < m.locals.size) ∧ i = index.toInt.toNat ∧ m' = m := by
  rw [localIndex, bind_eq_ok]
  constructor
  · intro h
    obtain ⟨_, _, hget, h⟩ := h
    obtain ⟨rfl, rfl⟩ := get_eq_ok.mp hget
    split at h
    · rename_i bounds
      exact ⟨bounds, pure_eq_ok.mp h⟩
    · exact absurd h throw_ne_ok
  · intro h
    obtain ⟨bounds, rfl, rfl⟩ := h
    exact ⟨m', m', rfl, by rw [if_pos bounds]; rfl⟩

theorem setLocal_eq_ok {index : Int64} {v : Value} {u : Unit} :
    setLocal index v m = .ok u m' ↔
      (0 ≤ index.toInt ∧ index.toInt < m.locals.size) ∧
        m' = { m with locals := m.locals.setIfInBounds index.toInt.toNat v } := by
  rw [setLocal, bind_eq_ok]
  constructor
  · intro h
    obtain ⟨_, _, hindex, h⟩ := h
    obtain ⟨bounds, rfl, rfl⟩ := localIndex_eq_ok.mp hindex
    exact ⟨bounds, modify_eq_ok.mp h⟩
  · intro h
    obtain ⟨bounds, rfl⟩ := h
    exact ⟨_, m, localIndex_eq_ok.mpr ⟨bounds, rfl, rfl⟩, rfl⟩

theorem procedureAt_eq_ok {script : Container} {index : Int64} {p : Procedure} :
    procedureAt script index m = .ok p m' ↔
      (0 ≤ index.toInt ∧ script.procedureAt? index.toInt.toNat = some p) ∧ m' = m := by
  rw [procedureAt]
  split
  · rename_i h
    cases hp : script.procedureAt? index.toInt.toNat with
    | some q =>
      change EStateM.Result.ok q m = .ok p m' ↔ _
      constructor
      · intro h
        cases h
        exact ⟨⟨h, rfl⟩, rfl⟩
      · intro h
        obtain ⟨⟨-, ⟨⟩⟩, rfl⟩ := h
        rfl
    | none =>
      refine ⟨nofun, ?_⟩
      intro h
      obtain ⟨⟨-, h'⟩, -⟩ := h
      contradiction
  · rename_i h
    exact ⟨nofun, fun h' => absurd h'.1.1 h⟩

theorem slotAt_eq_ok {base index : Nat} {offset : Int64} :
    slotAt base offset m = .ok index m' ↔
      (0 ≤ offset.toInt ∧ base + offset.toInt.toNat < UInt64.size) ∧
        index = base + offset.toInt.toNat ∧ m' = m := by
  rw [slotAt]
  split
  · rename_i h
    rw [pure_eq_ok, and_iff_right h]
  · rename_i h
    exact ⟨nofun, fun h' => absurd h'.1 h⟩

theorem toInt_body (p : Procedure) : (Int64.ofNat p.body.toNat).toInt = p.body.toNat := by
  apply Int64.toInt_ofNat_of_lt
  have := p.body.toNat_lt
  omega

/-- What a call finds on the data stack, and what it makes of the machine. -/
theorem call_eq_ok {script : Container} {p : Procedure} :
    call script m = .ok p m' ↔ ∃ index rest,
      (m.data = .int index :: rest ∧ 0 ≤ index.toInt ∧
        script.procedureAt? index.toInt.toNat = some p) ∧
      p.body.toNat < script.size ∧ m' = { m with
        data := rest
        calls := .ofNat m.position :: m.calls
        position := p.body.toNat } := by
  constructor
  · intro h
    obtain ⟨index, m₁, hindex, h⟩ := bind_eq_ok.mp h
    obtain ⟨rest, hdata, rfl⟩ := popInteger_eq_ok.mp hindex
    obtain ⟨q, m₂, hp, h⟩ := bind_eq_ok.mp h
    obtain ⟨⟨positive, found⟩, rfl⟩ := procedureAt_eq_ok.mp hp
    obtain ⟨_, m₃, hget, h⟩ := bind_eq_ok.mp h
    obtain ⟨rfl, rfl⟩ := get_eq_ok.mp hget
    obtain ⟨_, m₄, hpush, h⟩ := bind_eq_ok.mp h
    obtain ⟨calls, hcalls, rfl⟩ := onCalls_eq_ok.mp hpush
    obtain rfl := Stack.push_eq_ok.mp hcalls
    obtain ⟨_, m₅, hjump, h⟩ := bind_eq_ok.mp h
    obtain ⟨⟨-, inside⟩, rfl⟩ := jump_eq_ok.mp hjump
    obtain ⟨rfl, rfl⟩ := pure_eq_ok.mp h
    rw [toInt_body] at inside ⊢
    exact ⟨index, rest, ⟨hdata, positive, found⟩, Int.ofNat_lt.mp inside, rfl⟩
  · rintro ⟨index, rest, ⟨hdata, positive, found⟩, inside, rfl⟩
    have address : 0 ≤ (Int64.ofNat p.body.toNat).toInt ∧
        (Int64.ofNat p.body.toNat).toInt < script.code.size := by
      rw [toInt_body]
      exact ⟨Int.natCast_nonneg _, Int.ofNat_lt.mpr inside⟩
    refine bind_eq_ok.mpr ⟨index, _, popInteger_eq_ok.mpr ⟨rest, hdata, rfl⟩, ?_⟩
    refine bind_eq_ok.mpr ⟨p, _, procedureAt_eq_ok.mpr ⟨⟨positive, found⟩, rfl⟩, ?_⟩
    refine bind_eq_ok.mpr ⟨_, _, get_eq_ok.mpr ⟨rfl, rfl⟩, ?_⟩
    refine bind_eq_ok.mpr ⟨(), _, onCalls_eq_ok.mpr ⟨_, Stack.push_eq_ok.mpr rfl, rfl⟩, ?_⟩
    refine bind_eq_ok.mpr ⟨(), _, jump_eq_ok.mpr ⟨address, rfl⟩, pure_eq_ok.mpr ⟨rfl, ?_⟩⟩
    rw [toInt_body]
    rfl

theorem exitProg_eq_ok {script : Container} {t : Turn} :
    perform script .exitProg m = .ok t m' ↔
      0 < script.size ∧ t = .next ∧ m' = { m with initialized := true, position := 0 } := by
  rw [perform, next_eq_ok, bind_eq_ok]
  constructor
  · rintro ⟨rfl, _, m₁, hmodify, hjump⟩
    obtain rfl := modify_eq_ok.mp hmodify
    obtain ⟨⟨-, inside⟩, rfl⟩ := jump_eq_ok.mp hjump
    exact ⟨Int.ofNat_lt.mp inside, rfl, rfl⟩
  · rintro ⟨inside, rfl, rfl⟩
    refine ⟨rfl, (), _, modify_eq_ok.mpr rfl, ?_⟩
    exact jump_eq_ok.mpr ⟨⟨Int.le_refl 0, Int.ofNat_lt.mpr inside⟩, rfl⟩

theorem ret_eq_ok {code : Array UInt8} {u : Unit} :
    ret code m = .ok u m' ↔ ∃ result count rest address calls,
      (m.data = result :: .int count :: rest ∧ 0 ≤ count.toInt ∧
        count.toInt.toNat ≤ rest.length) ∧
      (m.calls = .int address :: calls ∧ 0 ≤ address.toInt ∧ address.toInt < code.size) ∧
      m' = { m with
        data := result :: rest.drop count.toInt.toNat
        calls
        position := address.toInt.toNat } := by
  constructor
  · intro h
    obtain ⟨result, m₁, hpop, h⟩ := bind_eq_ok.mp h
    obtain ⟨data₁, hdata₁, rfl⟩ := pop_eq_ok.mp hpop
    obtain ⟨count, m₂, hcount, h⟩ := bind_eq_ok.mp h
    obtain ⟨rest, hrest, rfl⟩ := popInteger_eq_ok.mp hcount
    obtain ⟨positive, h⟩ := guard_eq_ok.mp h
    obtain ⟨_, m₃, hdrop, h⟩ := bind_eq_ok.mp h
    obtain ⟨data₃, hdata₃, rfl⟩ := onData_eq_ok.mp hdrop
    obtain ⟨enough, rfl⟩ := Stack.dropMany_eq_ok.mp hdata₃
    obtain ⟨address, m₄, haddress, h⟩ := bind_eq_ok.mp h
    obtain ⟨calls, hcalls, rfl⟩ := onCalls_eq_ok.mp haddress
    have hcalls : m.calls = .int address :: calls := Stack.popInteger_eq_ok.mp hcalls
    obtain ⟨_, m₅, hpush, h⟩ := bind_eq_ok.mp h
    obtain rfl := push_eq_ok.mp hpush
    obtain ⟨inside, rfl⟩ := jump_eq_ok.mp h
    have hdata : m.data = result :: .int count :: rest := by
      rw [hdata₁]
      exact congrArg _ hrest
    exact ⟨result, count, rest, address, calls, ⟨hdata, Int.not_lt.mp positive, enough⟩,
      ⟨hcalls, inside⟩, rfl⟩
  · rintro ⟨result, count, rest, address, calls, ⟨hdata, positive, enough⟩, ⟨hcalls, inside⟩, rfl⟩
    refine bind_eq_ok.mpr ⟨result, _, pop_eq_ok.mpr ⟨_, hdata, rfl⟩, ?_⟩
    refine bind_eq_ok.mpr ⟨count, _, popInteger_eq_ok.mpr ⟨rest, rfl, rfl⟩, ?_⟩
    refine guard_eq_ok.mpr ⟨Int.not_lt.mpr positive, ?_⟩
    refine bind_eq_ok.mpr ⟨(), _, onData_eq_ok.mpr
      ⟨_, Stack.dropMany_eq_ok.mpr ⟨enough, rfl⟩, rfl⟩, ?_⟩
    refine bind_eq_ok.mpr ⟨address, _, onCalls_eq_ok.mpr
      ⟨calls, Stack.popInteger_eq_ok.mpr hcalls, rfl⟩, ?_⟩
    refine bind_eq_ok.mpr ⟨(), _, push_eq_ok.mpr rfl, ?_⟩
    exact jump_eq_ok.mpr ⟨inside, rfl⟩

theorem storeSlot_eq_ok {base : Machine → Nat} {u : Unit} :
    storeSlot base m = .ok u m' ↔ ∃ offset v rest,
      let index := base { m with data := rest } + offset.toInt.toNat
      m.data = .int offset :: v :: rest ∧
      (0 ≤ offset.toInt ∧ index < UInt64.size ∧ index < rest.length) ∧
      m' = { m with data := (Stack.bottomUp rest |>.set index v).reverse } := by
  constructor
  · intro h
    obtain ⟨offset, m₁, hoffset, h⟩ := bind_eq_ok.mp h
    obtain ⟨data₁, hdata₁, rfl⟩ := popInteger_eq_ok.mp hoffset
    obtain ⟨v, m₂, hpop, h⟩ := bind_eq_ok.mp h
    obtain ⟨rest, hrest, rfl⟩ := pop_eq_ok.mp hpop
    obtain ⟨_, m₃, hget, h⟩ := bind_eq_ok.mp h
    obtain ⟨rfl, rfl⟩ := get_eq_ok.mp hget
    obtain ⟨index, m₄, hindex, h⟩ := bind_eq_ok.mp h
    obtain ⟨⟨positive, fits⟩, rfl, rfl⟩ := slotAt_eq_ok.mp hindex
    obtain ⟨data, hdata, rfl⟩ := onData_eq_ok.mp h
    obtain ⟨inside, rfl⟩ := Stack.setSlot_eq_ok.mp hdata
    have hdata : m.data = .int offset :: v :: rest := by
      rw [hdata₁]
      exact congrArg _ hrest
    exact ⟨offset, v, rest, hdata, ⟨positive, fits, inside⟩, rfl⟩
  · rintro ⟨offset, v, rest, hdata, ⟨positive, fits, inside⟩, rfl⟩
    refine bind_eq_ok.mpr ⟨offset, _, popInteger_eq_ok.mpr ⟨_, hdata, rfl⟩, ?_⟩
    refine bind_eq_ok.mpr ⟨v, _, pop_eq_ok.mpr ⟨rest, rfl, rfl⟩, ?_⟩
    refine bind_eq_ok.mpr ⟨_, _, get_eq_ok.mpr ⟨rfl, rfl⟩, ?_⟩
    refine bind_eq_ok.mpr ⟨_, _, slotAt_eq_ok.mpr ⟨⟨positive, fits⟩, rfl, rfl⟩, ?_⟩
    exact onData_eq_ok.mpr ⟨_, Stack.setSlot_eq_ok.mpr ⟨inside, rfl⟩, rfl⟩

end ScriptMachine.Exec
