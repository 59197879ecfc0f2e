import Mathlib.Tactic.Common
import ScriptMachine.Proofs.Machine.Deferred

/-!
# What instructions leave alone

Most instructions only work on the data stack and read operands, so they keep everything
that does not depend on the data stack and the position. Keeping is closed under
sequencing, and holds of a failing instruction as well as of one that succeeds.
-/

namespace ScriptMachine.Exec

variable {α β γ : Type}

def left (x : Exec α) (m : Machine) : Machine :=
  match x m with
  | .ok _ m' => m'
  | .error _ m' => m'

theorem left_next (x : Exec Unit) (m : Machine) : (next x).left m = x.left m := by
  simp only [left, next, Bind.bind, EStateM.bind]
  cases x m <;> rfl

/-- Work that does not change a view of the machine. -/
def Keeps (f : Machine → γ) (x : Exec α) : Prop := ∀ m, f (x.left m) = f m

structure Remote (f : Machine → γ) : Prop where
  data : ∀ m s, f { m with data := s } = f m
  position : ∀ m p, f { m with position := p } = f m

section

variable {f : Machine → γ}

theorem keeps_pure (a : α) : Keeps f (pure a : Exec α) := fun _ => rfl

theorem keeps_throw (e : Fault) : Keeps f (throw e : Exec α) := fun _ => rfl

theorem keeps_get : Keeps f (get : Exec Machine) := fun _ => rfl

theorem keeps_modify {g : Machine → Machine} (h : ∀ m, f (g m) = f m) :
    Keeps f (modify g : Exec Unit) := h

theorem Keeps.bind {x : Exec α} {k : α → Exec β} (hx : Keeps f x) (hk : ∀ a, Keeps f (k a)) :
    Keeps f (x >>= k) := by
  intro m
  have first := hx m
  simp only [left, Bind.bind, EStateM.bind] at first ⊢
  cases h : x m with
  | ok a m' =>
    rw [h] at first
    exact (hk a m').trans first
  | error e m' =>
    rw [h] at first
    exact first

theorem Keeps.ite {c : Prop} [Decidable c] {x y : Exec α} (hx : Keeps f x) (hy : Keeps f y) :
    Keeps f (if c then x else y) := by
  split
  · exact hx
  · exact hy

theorem keeps_onCalls (hcalls : ∀ m s, f { m with calls := s } = f m) (w : Stack.Work α) :
    Keeps f (onCalls w) := by
  intro m
  rw [left, onCalls]
  cases w m.calls with
  | ok a s => exact hcalls m s
  | error e s => exact hcalls m s

theorem keeps_slotAt (base : Nat) (offset : Int64) : Keeps f (slotAt base offset) :=
  .ite (keeps_pure _) (keeps_throw _)

theorem keeps_localIndex (index : Int64) : Keeps f (localIndex index) :=
  keeps_get.bind fun _ => .ite (keeps_pure _) (keeps_throw _)

theorem keeps_localVariable (index : Int64) : Keeps f (localVariable index) :=
  (keeps_localIndex index).bind fun _ => keeps_get.bind fun _ => keeps_pure _

theorem keeps_procedureAt (script : Container) (index : Int64) :
    Keeps f (procedureAt script index) := by
  intro m
  rw [left, procedureAt]
  cases if 0 ≤ index.toInt then script.procedureAt? index.toInt.toNat else none <;> rfl

theorem keeps_ofValue (r : Except ValueError α) : Keeps f (ofValue r) := by
  cases r with
  | ok a => exact keeps_pure a
  | error e => exact keeps_throw _

end

section

variable {f : Machine → γ} (h : ∀ m s, f { m with data := s } = f m)

include h

theorem keeps_onData (w : Stack.Work α) : Keeps f (onData w) := by
  intro m
  rw [left, onData]
  cases w m.data with
  | ok a s => exact h m s
  | error e s => exact h m s

theorem keeps_push (v : Value) : Keeps f (push v) := keeps_onData h _

theorem keeps_pop : Keeps f pop := keeps_onData h _

theorem keeps_popInteger : Keeps f popInteger := keeps_onData h _

theorem keeps_popString : Keeps f popString := keeps_onData h _

theorem keeps_popObject : Keeps f popObject := keeps_onData h _

theorem keeps_popLogical : Keeps f popLogical := keeps_onData h _

theorem keeps_binary (g : Value → Value → Except ValueError Value) : Keeps f (binary g) :=
  (keeps_pop h).bind fun _ => (keeps_pop h).bind fun _ =>
    (keeps_ofValue _).bind fun _ => keeps_push h _

theorem keeps_unary (g : Value → Except ValueError Value) : Keeps f (unary g) :=
  (keeps_pop h).bind fun _ => (keeps_ofValue _).bind fun _ => keeps_push h _

theorem keeps_logical (g : Bool → Bool → Bool) : Keeps f (logical g) :=
  (keeps_popLogical h).bind fun _ => (keeps_popLogical h).bind fun _ => keeps_push h _

theorem keeps_checkArgCount (script : Container) : Keeps f (checkArgCount script) :=
  (keeps_popInteger h).bind fun _ => (keeps_popInteger h).bind fun _ =>
    (keeps_procedureAt script _).bind fun _ => .ite (keeps_pure _) (keeps_throw _)

theorem keeps_lookupProcedure (script : Container) : Keeps f (lookupProcedure script) := by
  apply (keeps_popString h).bind
  intro name
  cases script.index? name with
  | some index => exact keeps_push h _
  | none => exact keeps_throw _

theorem keeps_fetchSlot (base : Machine → Nat) : Keeps f (fetchSlot base) :=
  (keeps_popInteger h).bind fun _ => keeps_get.bind fun _ => (keeps_slotAt _ _).bind fun _ =>
    (keeps_onData h _).bind fun _ => keeps_push h _

theorem keeps_storeSlot (base : Machine → Nat) : Keeps f (storeSlot base) :=
  (keeps_popInteger h).bind fun _ => (keeps_pop h).bind fun _ => keeps_get.bind fun _ =>
    (keeps_slotAt _ _).bind fun _ => keeps_onData h _

theorem keeps_swap : Keeps f swap :=
  (keeps_pop h).bind fun _ => (keeps_pop h).bind fun _ => (keeps_push h _).bind fun _ =>
    keeps_push h _

theorem keeps_message (operation : String) (view : Message → String) :
    Keeps f (message operation view) :=
  (keeps_popInteger h).bind fun _ => (keeps_popInteger h).bind fun _ => keeps_pure _

end

section

variable {f : Machine → γ} (h : Remote f)

include h

theorem keeps_jump (code : Array UInt8) (address : Int64) : Keeps f (jump code address) :=
  .ite (keeps_modify fun m => h.position m _) (keeps_throw _)

theorem keeps_operand (code : Array UInt8) (read : Reader.Work α) :
    Keeps f (operand code read) := by
  intro m
  rw [left, operand]
  cases read (m.reader code) with
  | ok a r => exact h.position m _
  | error e r => exact h.position m _

theorem keeps_literal (code : Array UInt8) (read : Reader.Work α) (view : α → Value) :
    Keeps f (literal code read view) :=
  (keeps_operand h code read).bind fun _ => keeps_push h.data _

theorem keeps_pushString (script : Container) : Keeps f (pushString script) := by
  apply (keeps_operand h _ _).bind
  intro offset
  apply keeps_get.bind
  intro m
  cases if beforeVariableName m script.code then script.identifier? offset
    else script.string? offset with
  | some s => exact keeps_push h.data _
  | none => exact keeps_throw _

theorem keeps_jumpUnless (code : Array UInt8) : Keeps f (jumpUnless code) :=
  (keeps_popLogical h.data).bind fun _ => (keeps_popInteger h.data).bind fun _ =>
    .ite (keeps_pure _) (keeps_jump h _ _)

end

theorem Keeps.next {f : Machine → γ} {x : Exec Unit} (hx : Keeps f x) : Keeps f (next x) :=
  hx.bind fun _ => keeps_pure _

theorem keeps_trigger {f : Machine → γ} (operation : String) (e : HostEffect) :
    Keeps f (trigger operation e) :=
  keeps_get.bind fun _ => keeps_pure _

end ScriptMachine.Exec
