import ScriptMachine.Proofs.Host.Padding
import ScriptMachine.Proofs.Machine.Stepping
import ScriptMachine.Proofs.Machine.Turns

/-!
# No instruction makes padding

No operation on values results in the padding value, and no instruction puts it anywhere if
it finds none in the machine, whether it succeeds or fails. So it hands none to the host,
and one step of a machine with a reliable host leaves none.
-/

namespace ScriptMachine

/-! Operations on values. -/

namespace Value

theorem ofNat_ne_none (n : Nat) : ofNat n ≠ .none := nofun

theorem ofBool_ne_none (b : Bool) : ofBool b ≠ .none := nofun

def Computes (r : Except ValueError Value) : Prop := r ≠ .ok .none

theorem computes_checked (op : Operation) (n : Int) : Computes (checked op n) := by
  rw [checked]
  split <;> nofun

theorem computes_numeric (op : Operation) (exact : Int → Int → Int)
    (rounded : Double → Double → Double) (a b : Value) :
    Computes (numeric op exact rounded a b) := by
  cases a <;> cases b <;> first | exact computes_checked _ _ | nofun

theorem computes_dividing {op : Operation} {exact : Int64 → Int64 → Except ValueError Value}
    (h : ∀ l r, Computes (exact l r)) (rounded : Double → Double → Double) (a b : Value) :
    Computes (dividing op exact rounded a b) := by
  unfold dividing
  split
  · nofun
  · cases a <;> cases b <;> first | exact h _ _ | nofun

theorem computes_modulus (a b : Value) : Computes (modulus a b) := by
  refine computes_dividing (fun l r => ?_) _ a b
  cases h : checked .modulus (l.toInt.tdiv r.toInt) <;> nofun

theorem computes_bitwise (op : Operation) (f : Int64 → Int64 → Int64) (a b : Value) :
    Computes (bitwise op f a b) := by
  cases a <;> cases b <;> nofun

theorem computes_concat (a b : Value) : Computes (concat a b) := by
  cases a <;> cases b <;> nofun

theorem computes_ofBool {α : Type} (r : Except ValueError α) (holds : α → Bool) :
    Computes (r.map fun a => .ofBool (holds a)) := by
  cases r <;> nofun

theorem computes_negative (v : Value) : Computes v.negative := by
  cases v <;> first | exact computes_checked _ _ | nofun

theorem computes_bitnot (v : Value) : Computes v.bitnot := by cases v <;> nofun

theorem computes_floor (v : Value) : Computes v.floor := by cases v <;> nofun

end Value

/-! Work that keeps an invariant. -/

section

variable {σ α β : Type} {I : σ → Prop} {P : α → Prop} {Q : β → Prop}

def Maintains (I : σ → Prop) (P : α → Prop) (x : EStateM Fault σ α) : Prop :=
  ∀ s, I s → (∀ a s', x s = .ok a s' → P a ∧ I s') ∧ ∀ e s', x s = .error e s' → I s'

abbrev Whatever (_ : α) : Prop := True

theorem maintains_pure {a : α} (h : P a) : Maintains I P (pure a : EStateM Fault σ α) := by
  intro s hs
  refine ⟨fun b s' hx => ?_, nofun⟩
  obtain ⟨rfl, rfl⟩ := pure_eq_ok.mp hx
  exact ⟨h, hs⟩

theorem maintains_throw (e : Fault) : Maintains I P (throw e : EStateM Fault σ α) := by
  intro s hs
  refine ⟨nofun, fun e s' hx => ?_⟩
  cases hx
  exact hs

theorem maintains_get : Maintains I I (get : EStateM Fault σ σ) := by
  intro s hs
  refine ⟨fun b s' hx => ?_, nofun⟩
  obtain ⟨rfl, rfl⟩ := get_eq_ok.mp hx
  exact ⟨hs, hs⟩

theorem maintains_modify {g : σ → σ} (h : ∀ s, I s → I (g s)) :
    Maintains I Whatever (modify g : EStateM Fault σ Unit) := by
  intro s hs
  refine ⟨fun b s' hx => ?_, nofun⟩
  obtain rfl := modify_eq_ok.mp hx
  exact ⟨trivial, h s hs⟩

theorem maintains_set {s : σ} (h : I s) :
    Maintains I Whatever (set s : EStateM Fault σ PUnit) := maintains_modify fun _ _ => h

theorem Maintains.bind {x : EStateM Fault σ α} {k : α → EStateM Fault σ β}
    (hx : Maintains I P x) (hk : ∀ a, P a → Maintains I Q (k a)) : Maintains I Q (x >>= k) := by
  intro s hs
  obtain ⟨succeeds, fails⟩ := hx s hs
  cases hfirst : x s with
  | ok a s₁ =>
    obtain ⟨ha, hs₁⟩ := succeeds a s₁ hfirst
    rw [bind_of_ok hfirst]
    exact hk a ha s₁ hs₁
  | error e s₁ =>
    rw [bind_of_error hfirst]
    refine ⟨nofun, fun e' s' h => ?_⟩
    cases h
    exact fails e s₁ hfirst

theorem Maintains.map {x : EStateM Fault σ α} {f : α → β} (hx : Maintains I P x)
    (h : ∀ a, P a → Q (f a)) : Maintains I Q (f <$> x) := by
  rw [map_eq_pure_bind]
  exact hx.bind fun a ha => maintains_pure (h a ha)

theorem Maintains.ite {c : Prop} [Decidable c] {x y : EStateM Fault σ α} (hx : Maintains I P x)
    (hy : Maintains I P y) : Maintains I P (if c then x else y) := by
  split
  · exact hx
  · exact hy

theorem Maintains.guard {c : Prop} [Decidable c] {e : Fault} {x : EStateM Fault σ α}
    (hx : Maintains I P x) :
    Maintains I P (if c then (throw e : EStateM Fault σ Unit) >>= fun _ => x
      else pure () >>= fun _ => x) :=
  .ite (.bind (P := Whatever) (maintains_throw e) fun _ _ => hx)
    (.bind (P := Whatever) (maintains_pure trivial) fun _ _ => hx)

end

/-! The stacks and the machine. -/

def Stack.Unpadded (s : Stack) : Prop := .none ∉ s

structure Machine.Unpadded (m : Machine) : Prop where
  data : m.data.Unpadded
  calls : m.calls.Unpadded
  locals : .none ∉ m.locals

namespace Stack

variable {s : Stack} {v : Value}

theorem Unpadded.cons (hv : v ≠ .none) (h : s.Unpadded) : Unpadded (v :: s) :=
  List.not_mem_cons_of_ne_of_not_mem hv.symm h

theorem Unpadded.of_subset {s' : Stack} (h : s.Unpadded) (sub : s' ⊆ s) : s'.Unpadded :=
  fun padding => h (sub padding)

theorem maintains_push (hv : v ≠ .none) : Maintains Unpadded Whatever (push v) :=
  maintains_modify fun _ h => h.cons hv

theorem maintains_pop : Maintains Unpadded (· ≠ .none) pop := by
  refine maintains_get.bind fun s h => ?_
  cases s with
  | nil => exact maintains_throw _
  | cons v rest =>
    have hv : v ≠ .none := (List.ne_of_not_mem_cons h).symm
    have hrest : Unpadded rest := List.not_mem_of_not_mem_cons h
    exact (maintains_set hrest).bind fun _ _ => maintains_pure hv

theorem maintains_top : Maintains Unpadded (· ≠ .none) top := by
  refine maintains_get.bind fun s h => ?_
  cases s with
  | nil => exact maintains_throw _
  | cons v rest => exact maintains_pure (List.ne_of_not_mem_cons h).symm

theorem maintains_popAs {α : Type} (expected : Expectation) (view : Value → Option α) :
    Maintains Unpadded Whatever (popAs expected view) := by
  refine maintains_pop.bind fun v _ => ?_
  cases view v with
  | some a => exact maintains_pure trivial
  | none => exact maintains_throw _

theorem maintains_popLogical : Maintains Unpadded Whatever popLogical :=
  maintains_pop.map fun _ _ => trivial

theorem maintains_dropMany (n : Nat) : Maintains Unpadded Whatever (dropMany n) :=
  maintains_get.bind fun _ h => (maintains_set (h.of_subset (List.drop_subset n _))).bind
    fun _ _ => .ite (maintains_throw _) (maintains_pure trivial)

theorem maintains_slot (index : Nat) : Maintains Unpadded (· ≠ .none) (slot index) := by
  refine maintains_get.bind fun s h => ?_
  cases hv : s.bottomUp[index]? with
  | some v =>
    refine maintains_pure ?_
    rintro rfl
    exact h (List.mem_reverse.mp (List.mem_of_getElem? hv))
  | none => exact maintains_throw _

theorem maintains_setSlot (index : Nat) (hv : v ≠ .none) :
    Maintains Unpadded Whatever (setSlot index v) := by
  refine maintains_get.bind fun s h => .ite (maintains_set fun padding => ?_) (maintains_throw _)
  rcases List.mem_or_eq_of_mem_set (List.mem_reverse.mp padding) with old | new
  · exact h (List.mem_reverse.mp old)
  · exact hv new.symm

end Stack

structure Query.Unpadded (q : Query) : Prop where
  request : q.request.Unpadded
  deliver : ∀ view ∈ q.deliver, ∀ reply : Reply q.request, reply.Unpadded → view reply ≠ .none

namespace Turn

def Unpadded : Turn → Prop
  | .ask q => q.Unpadded
  | _ => True

theorem unpadded_fetch {request : Request} {operation : String} {view : request.Answer → Value}
    {default : Value} (hrequest : request.Unpadded)
    (hview : ∀ a, request.value? a ≠ some .none → view a ≠ .none) (hdefault : default ≠ .none) :
    (fetch request operation view default).Unpadded := by
  refine ⟨hrequest, fun deliver hdeliver reply hreply => ?_⟩
  obtain rfl := Option.mem_some.mp hdeliver
  cases reply with
  | ok a => exact hview a (hreply a rfl)
  | error e => exact hdefault

theorem unpadded_read {request : Request} {operation : String} {view : request.Answer → Value}
    {default : Value} (hrequest : request.Unpadded)
    (hview : ∀ a, request.value? a = some (view a)) (hdefault : default ≠ .none) :
    (fetch request operation view default).Unpadded :=
  unpadded_fetch hrequest (fun a h padding => h ((hview a).trans (congrArg some padding))) hdefault

theorem unpadded_effect {request : Request} (operation : String) (h : request.Unpadded) :
    (effect request operation).Unpadded :=
  ⟨h, nofun⟩

end Turn

namespace Exec

variable {α β : Type} {P : α → Prop} {v : Value}

open Stack Machine

theorem onData_eq_error {f : Stack.Work α} {m m' : Machine} {e : Fault}
    (h : onData f m = .error e m') : ∃ s, f m.data = .error e s ∧ m' = { m with data := s } := by
  rw [onData] at h
  cases hf : f m.data with
  | ok a s =>
    rw [hf] at h
    contradiction
  | error e s =>
    rw [hf] at h
    cases h
    exact ⟨s, rfl, rfl⟩

theorem maintains_onData {f : Stack.Work α} (hf : Maintains Stack.Unpadded P f) :
    Maintains Machine.Unpadded P (onData f) := by
  intro m h
  obtain ⟨succeeds, fails⟩ := hf m.data h.data
  constructor
  · intro a m' hx
    obtain ⟨s, hs, rfl⟩ := onData_eq_ok.mp hx
    obtain ⟨ha, unpadded⟩ := succeeds a s hs
    exact ⟨ha, ⟨unpadded, h.calls, h.locals⟩⟩
  · intro e m' hx
    obtain ⟨s, hs, rfl⟩ := onData_eq_error hx
    have unpadded := fails e s hs
    exact ⟨unpadded, h.calls, h.locals⟩

theorem onCalls_eq_error {f : Stack.Work α} {m m' : Machine} {e : Fault}
    (h : onCalls f m = .error e m') : ∃ s, f m.calls = .error e s ∧ m' = { m with calls := s } := by
  rw [onCalls] at h
  cases hf : f m.calls with
  | ok a s =>
    rw [hf] at h
    contradiction
  | error e s =>
    rw [hf] at h
    cases h
    exact ⟨s, rfl, rfl⟩

theorem maintains_onCalls {f : Stack.Work α} (hf : Maintains Stack.Unpadded P f) :
    Maintains Machine.Unpadded P (onCalls f) := by
  intro m h
  obtain ⟨succeeds, fails⟩ := hf m.calls h.calls
  constructor
  · intro a m' hx
    obtain ⟨s, hs, rfl⟩ := onCalls_eq_ok.mp hx
    obtain ⟨ha, unpadded⟩ := succeeds a s hs
    exact ⟨ha, ⟨h.data, unpadded, h.locals⟩⟩
  · intro e m' hx
    obtain ⟨s, hs, rfl⟩ := onCalls_eq_error hx
    have unpadded := fails e s hs
    exact ⟨h.data, unpadded, h.locals⟩

theorem maintains_next {x : Exec Unit} (h : Maintains Machine.Unpadded Whatever x) :
    Maintains Machine.Unpadded Turn.Unpadded (next x) :=
  h.bind fun _ _ => maintains_pure trivial

theorem maintains_push (hv : v ≠ .none) : Maintains Machine.Unpadded Whatever (push v) :=
  maintains_onData (Stack.maintains_push hv)

theorem maintains_pop : Maintains Machine.Unpadded (· ≠ .none) pop :=
  maintains_onData Stack.maintains_pop

theorem maintains_popInteger : Maintains Machine.Unpadded Whatever popInteger :=
  maintains_onData (maintains_popAs _ _)

theorem maintains_popString : Maintains Machine.Unpadded Whatever popString :=
  maintains_onData (maintains_popAs _ _)

theorem maintains_popObject : Maintains Machine.Unpadded Whatever popObject :=
  maintains_onData (maintains_popAs _ _)

theorem maintains_popLogical : Maintains Machine.Unpadded Whatever popLogical :=
  maintains_onData Stack.maintains_popLogical

theorem maintains_jump (code : Array UInt8) (address : Int64) :
    Maintains Machine.Unpadded Whatever (jump code address) :=
  .ite (maintains_modify fun _ h => ⟨h.data, h.calls, h.locals⟩) (maintains_throw _)

theorem operand_eq_error {code : Array UInt8} {read : Reader.Work α} {m m' : Machine} {e : Fault}
    (h : operand code read m = .error e m') : ∃ position, m' = { m with position } := by
  rw [operand] at h
  cases hread : read (m.reader code) with
  | ok a r =>
    rw [hread] at h
    contradiction
  | error _ r =>
    rw [hread] at h
    cases h
    exact ⟨r.position, rfl⟩

theorem maintains_operand (code : Array UInt8) (read : Reader.Work α) :
    Maintains Machine.Unpadded Whatever (operand code read) := by
  intro m h
  constructor
  · intro a m' hx
    obtain ⟨r, -, rfl⟩ := operand_eq_ok.mp hx
    exact ⟨trivial, h.data, h.calls, h.locals⟩
  · intro e m' hx
    obtain ⟨position, rfl⟩ := operand_eq_error hx
    exact ⟨h.data, h.calls, h.locals⟩

theorem maintains_slotAt (base : Nat) (offset : Int64) :
    Maintains Machine.Unpadded Whatever (slotAt base offset) :=
  .ite (maintains_pure trivial) (maintains_throw _)

theorem maintains_localIndex (index : Int64) :
    Maintains Machine.Unpadded Whatever (localIndex index) :=
  maintains_get.bind fun _ _ => .ite (maintains_pure trivial) (maintains_throw _)

/-- An index that is accepted has a variable, so the value in place of a missing one is not
used. -/
theorem maintains_localVariable (index : Int64) :
    Maintains Machine.Unpadded (· ≠ .none) (localVariable index) := by
  have kept : Maintains Machine.Unpadded Whatever (localVariable index) :=
    (maintains_localIndex index).bind fun _ _ => maintains_get.bind fun _ _ =>
      maintains_pure trivial
  intro m h
  obtain ⟨succeeds, fails⟩ := kept m h
  refine ⟨fun v m' hx => ⟨?_, (succeeds v m' hx).right⟩, fails⟩
  obtain ⟨i, m₁, hindex, hread⟩ := bind_eq_ok.mp hx
  obtain ⟨⟨positive, bound⟩, rfl, rfl⟩ := localIndex_eq_ok.mp hindex
  obtain ⟨_, _, hget, hpure⟩ := bind_eq_ok.mp hread
  obtain ⟨rfl, rfl⟩ := get_eq_ok.mp hget
  obtain ⟨rfl, rfl⟩ := pure_eq_ok.mp hpure
  have inside : index.toInt.toNat < m'.locals.size := by omega
  rw [Array.getElem?_eq_getElem inside, Option.getD_some]
  exact fun padding => h.locals (Array.mem_of_getElem padding)

theorem maintains_setLocal (index : Int64) (hv : v ≠ .none) :
    Maintains Machine.Unpadded Whatever (setLocal index v) := by
  refine (maintains_localIndex index).bind fun i _ => maintains_modify fun m h => ?_
  refine ⟨h.data, h.calls, fun padding => ?_⟩
  rcases Array.mem_or_eq_of_mem_setIfInBounds padding with old | new
  · exact h.locals old
  · exact hv new.symm

theorem maintains_procedureAt (script : Container) (index : Int64) :
    Maintains Machine.Unpadded Whatever (procedureAt script index) := by
  rw [procedureAt]
  cases if 0 ≤ index.toInt then script.procedureAt? index.toInt.toNat else none with
  | some p => exact maintains_pure trivial
  | none => exact maintains_throw _

theorem maintains_ofValue {answer : Except ValueError Value} (h : Value.Computes answer) :
    Maintains Machine.Unpadded (· ≠ .none) (ofValue answer) := by
  cases answer with
  | ok v =>
    apply maintains_pure
    rintro rfl
    exact h rfl
  | error e => exact maintains_throw _

/-! Families of instructions. -/

theorem maintains_literal (code : Array UInt8) (read : Reader.Work α)
    {view : α → Value} (h : ∀ a, view a ≠ .none) :
    Maintains Machine.Unpadded Whatever (literal code read view) :=
  (maintains_operand code read).bind fun a _ => maintains_push (h a)

theorem maintains_pushString (script : Container) :
    Maintains Machine.Unpadded Whatever (pushString script) := by
  refine (maintains_operand _ _).bind fun offset _ => maintains_get.bind fun m _ => ?_
  cases if beforeVariableName m script.code then script.identifier? offset
    else script.string? offset with
  | some s => exact maintains_push nofun
  | none => exact maintains_throw _

theorem maintains_binary {f : Value → Value → Except ValueError Value}
    (h : ∀ a b, Value.Computes (f a b)) : Maintains Machine.Unpadded Whatever (binary f) :=
  maintains_pop.bind fun b _ => maintains_pop.bind fun a _ =>
    (maintains_ofValue (h a b)).bind fun _ hv => maintains_push hv

theorem maintains_unary {f : Value → Except ValueError Value} (h : ∀ v, Value.Computes (f v)) :
    Maintains Machine.Unpadded Whatever (unary f) :=
  maintains_pop.bind fun v _ => (maintains_ofValue (h v)).bind fun _ hv => maintains_push hv

theorem maintains_logical (f : Bool → Bool → Bool) :
    Maintains Machine.Unpadded Whatever (logical f) :=
  maintains_popLogical.bind fun _ _ => maintains_popLogical.bind fun _ _ =>
    maintains_push (Value.ofBool_ne_none _)

theorem maintains_jumpUnless (code : Array UInt8) :
    Maintains Machine.Unpadded Whatever (jumpUnless code) :=
  maintains_popLogical.bind fun _ _ => maintains_popInteger.bind fun _ _ =>
    .ite (maintains_pure trivial) (maintains_jump _ _)

theorem maintains_call (script : Container) :
    Maintains Machine.Unpadded Whatever (call script) :=
  maintains_popInteger.bind fun _ _ => (maintains_procedureAt _ _).bind fun _ _ =>
    maintains_get.bind fun _ _ =>
      (maintains_onCalls (Stack.maintains_push (Value.ofNat_ne_none _))).bind fun _ _ =>
        (maintains_jump _ _).bind fun _ _ => maintains_pure trivial

theorem maintains_ret (code : Array UInt8) :
    Maintains Machine.Unpadded Whatever (ret code) :=
  maintains_pop.bind fun _ hresult => maintains_popInteger.bind fun _ _ => .guard
    ((maintains_onData (maintains_dropMany _)).bind fun _ _ =>
      (maintains_onCalls (maintains_popAs _ _)).bind fun _ _ =>
        (maintains_push hresult).bind fun _ _ => maintains_jump _ _)

theorem maintains_checkArgCount (script : Container) :
    Maintains Machine.Unpadded Whatever (checkArgCount script) :=
  maintains_popInteger.bind fun _ _ => maintains_popInteger.bind fun _ _ =>
    (maintains_procedureAt _ _).bind fun _ _ => .ite (maintains_pure trivial) (maintains_throw _)

theorem maintains_lookupProcedure (script : Container) :
    Maintains Machine.Unpadded Whatever (lookupProcedure script) := by
  refine maintains_popString.bind fun name _ => ?_
  cases script.index? name with
  | some index => exact maintains_push (Value.ofNat_ne_none index)
  | none => exact maintains_throw _

theorem maintains_pushBase : Maintains Machine.Unpadded Whatever pushBase := by
  refine (maintains_onData maintains_top).bind fun top _ => maintains_get.bind fun m _ => ?_
  cases top with
  | int n =>
    refine .guard (.guard ?_)
    exact (maintains_onCalls (Stack.maintains_push (Value.ofNat_ne_none _))).bind fun _ _ =>
      maintains_modify fun _ h => ⟨h.data, h.calls, h.locals⟩
  | none | float | text | object => exact maintains_throw _

theorem maintains_popBase : Maintains Machine.Unpadded Whatever popBase :=
  (maintains_onCalls (maintains_popAs _ _)).bind fun _ _ => .guard
    (maintains_modify fun _ h => ⟨h.data, h.calls, h.locals⟩)

theorem maintains_fetchSlot (base : Machine → Nat) :
    Maintains Machine.Unpadded Whatever (fetchSlot base) :=
  maintains_popInteger.bind fun _ _ => maintains_get.bind fun _ _ =>
    (maintains_slotAt _ _).bind fun _ _ => (maintains_onData (maintains_slot _)).bind fun _ hv =>
      maintains_push hv

theorem maintains_storeSlot (base : Machine → Nat) :
    Maintains Machine.Unpadded Whatever (storeSlot base) :=
  maintains_popInteger.bind fun _ _ => maintains_pop.bind fun _ hv => maintains_get.bind fun _ _ =>
    (maintains_slotAt _ _).bind fun _ _ => maintains_onData (maintains_setSlot _ hv)

theorem maintains_swap : Maintains Machine.Unpadded Whatever swap :=
  maintains_pop.bind fun _ ha => maintains_pop.bind fun _ hb => (maintains_push ha).bind
    fun _ _ => maintains_push hb

theorem maintains_trigger (operation : String) (e : HostEffect) :
    Maintains Machine.Unpadded Turn.Unpadded (trigger operation e) :=
  maintains_get.bind fun _ _ => maintains_pure (Turn.unpadded_effect operation nofun)

theorem maintains_message (operation : String) (view : Message → String) :
    Maintains Machine.Unpadded Turn.Unpadded (message operation view) :=
  maintains_popInteger.bind fun _ _ => maintains_popInteger.bind fun _ _ =>
    maintains_pure (Turn.unpadded_fetch nofun (fun _ _ => nofun) nofun)

theorem maintains_perform (script : Container) (op : Opcode) :
    Maintains Machine.Unpadded Turn.Unpadded (perform script op) := by
  have registers {g : Machine → Machine} (h : ∀ m : Machine, m.Unpadded → (g m).Unpadded) :
      Maintains Machine.Unpadded Turn.Unpadded (next (modify g)) :=
    maintains_next (maintains_modify h)
  cases op with
  | noop | exit => exact maintains_pure trivial
  | pushInt | pushFloat => exact maintains_next (maintains_literal _ _ nofun)
  | pushString => exact maintains_next (maintains_pushString script)
  | pop => exact maintains_next (maintains_pop.map fun _ _ => trivial)
  | dup =>
    exact maintains_next ((maintains_onData maintains_top).bind fun _ hv => maintains_push hv)
  | swap => exact maintains_next maintains_swap
  | dataToReturn =>
    exact maintains_next (maintains_pop.bind fun _ hv =>
      maintains_onCalls (Stack.maintains_push hv))
  | returnToData =>
    exact maintains_next ((maintains_onCalls Stack.maintains_pop).bind fun _ hv =>
      maintains_push hv)
  | criticalStart | criticalDone | setGlobal | scriptOverrides =>
    exact registers fun m h => ⟨h.data, h.calls, h.locals⟩
  | popToBase =>
    exact registers fun m h => ⟨h.data.of_subset (List.drop_subset _ _), h.calls, h.locals⟩
  | jump => exact maintains_next (maintains_popInteger.bind fun _ _ => maintains_jump _ _)
  | jumpUnless | loopUnless => exact maintains_next (maintains_jumpUnless _)
  | call => exact (maintains_call script).bind fun _ _ => maintains_pure trivial
  | ret => exact maintains_next (maintains_ret _)
  | exitProg =>
    exact maintains_next ((maintains_modify fun m h => ⟨h.data, h.calls, h.locals⟩).bind
      fun _ _ => maintains_jump _ _)
  | checkArgCount => exact maintains_next (maintains_checkArgCount script)
  | lookupStringProc => exact maintains_next (maintains_lookupProcedure script)
  | pushBase => exact maintains_next maintains_pushBase
  | popBase => exact maintains_next maintains_popBase
  | fetch | fetchGlobal => exact maintains_next (maintains_fetchSlot _)
  | store | storeGlobal => exact maintains_next (maintains_storeSlot _)
  | localVar =>
    exact maintains_next (maintains_popInteger.bind fun _ _ =>
      (maintains_localVariable _).bind fun _ hv => maintains_push hv)
  | setLocalVar =>
    exact maintains_next (maintains_pop.bind fun _ hv => maintains_popInteger.bind fun _ _ =>
      maintains_setLocal _ hv)
  | eq | ne | lt | le | gt | ge =>
    exact maintains_next (maintains_binary fun _ _ => Value.computes_ofBool _ _)
  | add | sub | mul => exact maintains_next (maintains_binary (Value.computes_numeric _ _ _))
  | div =>
    exact maintains_next
      (maintains_binary (Value.computes_dividing (fun _ _ => Value.computes_checked _ _) _))
  | modulus => exact maintains_next (maintains_binary Value.computes_modulus)
  | bitAnd | bitOr | bitXor => exact maintains_next (maintains_binary (Value.computes_bitwise _ _))
  | concat => exact maintains_next (maintains_binary Value.computes_concat)
  | bitNot => exact maintains_next (maintains_unary Value.computes_bitnot)
  | floor => exact maintains_next (maintains_unary Value.computes_floor)
  | negate => exact maintains_next (maintains_unary Value.computes_negative)
  | and | or => exact maintains_next (maintains_logical _)
  | not =>
    exact maintains_next (maintains_popLogical.bind fun _ _ =>
      maintains_push (Value.ofBool_ne_none _))
  | random =>
    refine maintains_popInteger.bind fun _ _ => maintains_popInteger.bind fun _ _ =>
      maintains_pure ?_
    split <;> trivial
  | selfObj | sourceObj | targetObj | fixedParam | usedSkill =>
    exact maintains_next (maintains_get.bind fun _ _ => maintains_push nofun)
  | fetchExternal =>
    exact maintains_popString.bind fun _ _ =>
      maintains_pure (Turn.unpadded_read nofun (fun _ => rfl) nofun)
  | storeExternal =>
    exact maintains_popString.bind fun _ _ => maintains_pop.bind fun _ hv =>
      maintains_pure (Turn.unpadded_effect _ (Request.unpadded_of_handed rfl hv))
  | exportVar =>
    exact maintains_popString.bind fun _ _ => maintains_pure (Turn.unpadded_effect _ nofun)
  | mapVar | globalVar =>
    exact maintains_popInteger.bind fun _ _ =>
      maintains_pure (Turn.unpadded_read nofun (fun _ => rfl) nofun)
  | setMapVar | setGlobalVar =>
    exact maintains_pop.bind fun _ hv => maintains_popInteger.bind fun _ _ =>
      maintains_pure (Turn.unpadded_effect _ (Request.unpadded_of_handed rfl hv))
  | giveExpPoints | playMovie =>
    exact maintains_popInteger.bind fun _ _ => maintains_trigger _ _
  | playSfx | displayMsg =>
    exact maintains_popString.bind fun _ _ => maintains_trigger _ _
  | objName | objType =>
    exact maintains_popObject.bind fun _ _ =>
      maintains_pure (Turn.unpadded_read nofun (fun _ => rfl) nofun)
  | getCritterStat =>
    exact maintains_popInteger.bind fun _ _ => maintains_popObject.bind fun _ _ =>
      maintains_pure (Turn.unpadded_read nofun (fun _ => rfl) nofun)
  | setCritterStat =>
    refine maintains_popInteger.bind fun _ _ => maintains_popInteger.bind fun _ _ =>
      maintains_popObject.bind fun _ _ => maintains_pure ⟨nofun, fun view hview reply _ => ?_⟩
    obtain rfl := Option.mem_some.mp hview
    cases reply <;> nofun
  | dudeObj => exact maintains_pure (Turn.unpadded_fetch nofun (fun _ _ => nofun) nofun)
  | messageStr | messageSpeech => exact maintains_message _ _
  | callScriptProcedure =>
    exact maintains_popString.bind fun _ _ => maintains_popInteger.bind fun _ _ =>
      maintains_get.bind fun _ _ => maintains_pure (Turn.unpadded_read nofun (fun _ => rfl) nofun)

end Exec

namespace Machine

variable {σ : Type} {script : Container} {host : Host σ} {m : Machine} {w : World σ}

theorem Unpadded.receive (h : m.Unpadded) {v : Option Value} (hv : ∀ x ∈ v, x ≠ .none) :
    (m.receive v).Unpadded := by
  cases v with
  | none => exact h
  | some v => exact ⟨h.data.cons (hv v rfl), h.calls, h.locals⟩

theorem host_settleQuery (host : Host σ) (q : Query) (m : Machine) (w : World σ) :
    (m.settleQuery host q w).2.host = (host.answer q.request w.host).2 := by
  simp only [settleQuery, World.ask]
  cases (host.answer q.request w.host).1 <;> rfl

theorem Unpadded.settle (h : m.Unpadded) (reliable : host.Reliable w.host) {turn : Turn}
    (hturn : turn.Unpadded) :
    (m.settle host turn w).2.1.Unpadded ∧ host.Reliable (m.settle host turn w).2.2.host := by
  cases turn with
  | next | entered | halt => exact ⟨h, reliable⟩
  | draw low high =>
    have drawn : ∀ x ∈ some (Value.int (between low high w.dice.roll)), x ≠ .none := by
      rintro x ⟨⟩
      nofun
    exact ⟨h.receive drawn, reliable⟩
  | ask q =>
    refine ⟨h.receive fun x hx => ?_, ?_⟩
    · obtain ⟨view, hview, rfl⟩ := Option.map_eq_some_iff.mp hx
      exact hturn.deliver view hview _ (reliable.reply hturn.request)
    · change host.Reliable (m.settleQuery host q w).2.host
      rw [host_settleQuery]
      exact reliable.state hturn.request

theorem Unpadded.execute (h : m.Unpadded) (reliable : host.Reliable w.host) (script : Container)
    (code : UInt16) : (m.execute script host code w).2.1.Unpadded ∧
      host.Reliable (m.execute script host code w).2.2.host := by
  cases hop : Opcode.ofCode? code with
  | none =>
    rw [execute_of_none _ _ _ hop]
    exact ⟨h, reliable⟩
  | some op =>
    obtain ⟨succeeds, fails⟩ := Exec.maintains_perform script op m h
    rw [execute_of_some _ _ _ hop]
    cases hperform : Exec.perform script op m with
    | ok turn m₁ =>
      obtain ⟨hturn, hm₁⟩ := succeeds turn m₁ hperform
      exact hm₁.settle reliable hturn
    | error e m₁ => exact ⟨fails e m₁ hperform, reliable⟩

/-- One step leaves no padding either, whatever comes of it. -/
theorem Unpadded.step (h : m.Unpadded) (reliable : host.Reliable w.host) (script : Container) :
    (m.step script host w).2.1.Unpadded ∧ host.Reliable (m.step script host w).2.2.host := by
  rw [Machine.step]
  cases Reader.uint16 (m.reader script.code) with
  | error e r => exact ⟨⟨h.data, h.calls, h.locals⟩, reliable⟩
  | ok code r =>
    have fetched : (m.fetched code r.position).Unpadded := ⟨h.data, h.calls, h.locals⟩
    exact fetched.execute (w := w.note _) reliable script code

end Machine

end ScriptMachine
