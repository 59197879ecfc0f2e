import ScriptMachine.Proofs.Machine.Keeping
import ScriptMachine.Proofs.Machine.Success

/-!
# What instructions do besides the data stack

Twelve instructions change more than the data stack and the position. What a successful
one finds on the stacks, and what it makes of the rest of the machine, is said once for
every opcode. No instruction changes who owns the script or what the call's context is.
-/

namespace ScriptMachine

def Opcode.isPlain : Opcode → Bool
  | .dataToReturn | .returnToData | .criticalStart | .criticalDone | .call | .ret | .exitProg
  | .pushBase | .popBase | .setGlobal | .setLocalVar | .scriptOverrides => false
  | _ => true

def Opcode.isMoving : Opcode → Bool
  | .pushInt | .pushFloat | .pushString | .jump | .jumpUnless | .loopUnless | .call | .ret
  | .exitProg => true
  | _ => false

def Opcode.isLasting : Opcode → Bool
  | .exitProg | .scriptOverrides | .setLocalVar => true
  | _ => false

namespace Exec

variable {α β γ : Type}

theorem Keeps.map {f : Machine → γ} {x : Exec α} (hx : Keeps f x) (g : α → β) :
    Keeps f (g <$> x) := by
  intro m
  have first := hx m
  simp only [left, Functor.map, EStateM.map] at first ⊢
  cases h : x m <;> rw [h] at first <;> exact first

theorem keeps_perform_still {f : Machine → γ} (h : ∀ m s, f { m with data := s } = f m)
    (script : Container) {op : Opcode} (plain : op.isPlain = true) (still : op.isMoving = false) :
    Keeps f (perform script op) := by
  cases op with
  | dataToReturn | returnToData | criticalStart | criticalDone | call | ret | exitProg | pushBase
  | popBase | setGlobal | setLocalVar | scriptOverrides => contradiction
  | pushInt | pushFloat | pushString | jump | jumpUnless | loopUnless => contradiction
  | noop | exit => exact keeps_pure _
  | pop => exact ((keeps_pop h).map _).next
  | dup => exact ((keeps_onData h _).bind fun _ => keeps_push h _).next
  | swap => exact (keeps_swap h).next
  | checkArgCount => exact (keeps_checkArgCount h _).next
  | lookupStringProc => exact (keeps_lookupProcedure h _).next
  | popToBase => exact (keeps_modify fun m => h m _).next
  | fetch | fetchGlobal => exact (keeps_fetchSlot h _).next
  | store | storeGlobal => exact (keeps_storeSlot h _).next
  | localVar =>
    exact ((keeps_popInteger h).bind fun _ => (keeps_localVariable _).bind fun _ =>
      keeps_push h _).next
  | eq | ne | lt | le | gt | ge | add | sub | mul | div | modulus | bitAnd | bitOr | bitXor
  | concat => exact (keeps_binary h _).next
  | bitNot | floor | negate => exact (keeps_unary h _).next
  | and | or => exact (keeps_logical h _).next
  | not => exact ((keeps_popLogical h).bind fun _ => keeps_push h _).next
  | random =>
    exact (keeps_popInteger h).bind fun _ => (keeps_popInteger h).bind fun _ => keeps_pure _
  | selfObj | sourceObj | targetObj | fixedParam | usedSkill =>
    exact (keeps_get.bind fun _ => keeps_push h _).next
  | fetchExternal | exportVar => exact (keeps_popString h).bind fun _ => keeps_pure _
  | storeExternal =>
    exact (keeps_popString h).bind fun _ => (keeps_pop h).bind fun _ => keeps_pure _
  | mapVar | globalVar => exact (keeps_popInteger h).bind fun _ => keeps_pure _
  | setMapVar | setGlobalVar =>
    exact (keeps_pop h).bind fun _ => (keeps_popInteger h).bind fun _ => keeps_pure _
  | giveExpPoints | playMovie => exact (keeps_popInteger h).bind fun _ => keeps_trigger _ _
  | playSfx | displayMsg => exact (keeps_popString h).bind fun _ => keeps_trigger _ _
  | objName | objType => exact (keeps_popObject h).bind fun _ => keeps_pure _
  | getCritterStat =>
    exact (keeps_popInteger h).bind fun _ => (keeps_popObject h).bind fun _ => keeps_pure _
  | setCritterStat =>
    exact (keeps_popInteger h).bind fun _ => (keeps_popInteger h).bind fun _ =>
      (keeps_popObject h).bind fun _ => keeps_pure _
  | dudeObj => exact keeps_pure _
  | messageStr | messageSpeech => exact keeps_message h _ _
  | callScriptProcedure =>
    exact (keeps_popString h).bind fun _ => (keeps_popInteger h).bind fun _ =>
      keeps_get.bind fun _ => keeps_pure _

theorem keeps_perform_plain {f : Machine → γ} (h : Remote f) (script : Container) {op : Opcode}
    (plain : op.isPlain = true) : Keeps f (perform script op) := by
  cases moving : op.isMoving with
  | false => exact keeps_perform_still h.data script plain moving
  | true =>
    cases op with
    | pushInt | pushFloat => exact (keeps_literal h _ _ _).next
    | pushString => exact (keeps_pushString h _).next
    | jump => exact ((keeps_popInteger h.data).bind fun _ => keeps_jump h _ _).next
    | jumpUnless | loopUnless => exact (keeps_jumpUnless h _).next
    | _ => contradiction

structure Unframing (f : Machine → γ) : Prop where
  data : ∀ m s, f { m with data := s } = f m
  calls : ∀ m s, f { m with calls := s } = f m
  frameBase : ∀ m n, f { m with frameBase := n } = f m
  globalsBase : ∀ m n, f { m with globalsBase := n } = f m
  critical : ∀ m b, f { m with critical := b } = f m

structure Lasting (f : Machine → γ) : Prop extends Unframing f where
  position : ∀ m p, f { m with position := p } = f m
  opcode : ∀ m code offset, f { m with opcode := code, opcodeOffset := offset } = f m

theorem Lasting.remote {f : Machine → γ} (h : Lasting f) : Remote f := ⟨h.data, h.position⟩

section

variable {f : Machine → γ}

theorem keeps_guard {c : Prop} [Decidable c] {e : Fault} {x : Exec α} (hx : Keeps f x) :
    Keeps f (if c then (throw e : Exec Unit) >>= fun _ => x else pure () >>= fun _ => x) :=
  .ite ((keeps_throw e).bind fun _ => hx) ((keeps_pure ()).bind fun _ => hx)

theorem keeps_pushBase (h : Unframing f) : Keeps f pushBase := by
  apply (keeps_onData h.data _).bind
  intro top
  apply keeps_get.bind
  intro m
  cases top with
  | int n =>
    apply keeps_guard
    apply keeps_guard
    exact (keeps_onCalls h.calls _).bind fun _ => keeps_modify fun m => h.frameBase m _
  | _ => exact keeps_throw _

theorem keeps_popBase (h : Unframing f) : Keeps f popBase := by
  apply (keeps_onCalls h.calls _).bind
  intro base
  apply keeps_guard
  exact keeps_modify fun m => h.frameBase m _

theorem keeps_perform_unframing (h : Unframing f) (script : Container) {op : Opcode}
    (still : op.isMoving = false) (passing : op.isLasting = false) :
    Keeps f (perform script op) := by
  cases plain : op.isPlain with
  | true => exact keeps_perform_still h.data script plain still
  | false =>
    cases op with
    | dataToReturn =>
      exact ((keeps_pop h.data).bind fun _ => keeps_onCalls h.calls _).next
    | returnToData => exact ((keeps_onCalls h.calls _).bind fun _ => keeps_push h.data _).next
    | criticalStart | criticalDone => exact (keeps_modify fun m => h.critical m _).next
    | setGlobal => exact (keeps_modify fun m => h.globalsBase m _).next
    | pushBase => exact (keeps_pushBase h).next
    | popBase => exact (keeps_popBase h).next
    | _ => contradiction

theorem keeps_call (h : Lasting f) (script : Container) : Keeps f (call script) :=
  (keeps_popInteger h.data).bind fun _ => (keeps_procedureAt _ _).bind fun _ =>
    keeps_get.bind fun _ => (keeps_onCalls h.calls _).bind fun _ =>
      (keeps_jump h.remote _ _).bind fun _ => keeps_pure _

theorem keeps_ret (h : Lasting f) (code : Array UInt8) : Keeps f (ret code) := by
  apply (keeps_pop h.data).bind
  intro result
  apply (keeps_popInteger h.data).bind
  intro count
  apply keeps_guard
  exact (keeps_onData h.data _).bind fun _ => (keeps_onCalls h.calls _).bind fun _ =>
    (keeps_push h.data _).bind fun _ => keeps_jump h.remote _ _

theorem keeps_perform_lasting (h : Lasting f) (script : Container) {op : Opcode}
    (passing : op.isLasting = false) : Keeps f (perform script op) := by
  cases moving : op.isMoving with
  | false => exact keeps_perform_unframing h.toUnframing script moving passing
  | true =>
    cases op with
    | call => exact (keeps_call h _).bind fun _ => keeps_pure _
    | ret => exact (keeps_ret h _).next
    | pushInt | pushFloat | pushString | jump | jumpUnless | loopUnless =>
      exact keeps_perform_plain h.remote script rfl
    | _ => contradiction

end

theorem keeps_setLocal {f : Machine → γ} (h : ∀ m a, f { m with locals := a } = f m)
    (index : Int64) (v : Value) : Keeps f (setLocal index v) :=
  (keeps_localIndex index).bind fun _ => keeps_modify fun m => h m _

def setting (m : Machine) : Option Handle × CallContext := (m.owner, m.context)

theorem lasting_setting : Lasting setting where
  data _ _ := rfl
  calls _ _ := rfl
  frameBase _ _ := rfl
  globalsBase _ _ := rfl
  critical _ _ := rfl
  position _ _ := rfl
  opcode _ _ _ := rfl

theorem keeps_perform_setting (script : Container) (op : Opcode) :
    Keeps setting (perform script op) := by
  have h := lasting_setting
  cases lasting : op.isLasting with
  | false => exact keeps_perform_lasting h script lasting
  | true =>
    cases op with
    | exitProg =>
      refine ((keeps_modify ?_).bind fun _ => keeps_jump h.remote _ _).next
      exact fun _ => rfl
    | scriptOverrides =>
      refine (keeps_modify ?_).next
      exact fun _ => rfl
    | setLocalVar =>
      refine ((keeps_pop h.data).bind fun _ => (keeps_popInteger h.data).bind fun _ =>
        keeps_setLocal ?_ _ _).next
      exact fun _ _ => rfl
    | _ => contradiction

end Exec

inductive Framed (m : Machine) : Opcode → Machine → Prop where
  | plain {op : Opcode} : op.isPlain = true → Framed m op m
  | dataToReturn (v : Value) (data : Stack) : m.data = v :: data →
      Framed m .dataToReturn { m with calls := v :: m.calls }
  | returnToData (v : Value) (calls : Stack) : m.calls = v :: calls →
      Framed m .returnToData { m with calls }
  | call : Framed m .call { m with calls := .ofNat m.position :: m.calls }
  | ret (address : Int64) (calls : Stack) : m.calls = .int address :: calls →
      Framed m .ret { m with calls }
  | pushBase (n : Int64) (data : Stack) : m.data = .int n :: data → 0 ≤ n.toInt →
      n.toInt.toNat + 1 ≤ m.data.length →
      Framed m .pushBase { m with
        calls := .ofNat m.frameBase :: m.calls
        frameBase := m.data.length - (n.toInt.toNat + 1) }
  | popBase (base : Int64) (calls : Stack) : m.calls = .int base :: calls → 0 ≤ base.toInt →
      Framed m .popBase { m with calls, frameBase := base.toInt.toNat }
  | criticalStart : Framed m .criticalStart { m with critical := true }
  | criticalDone : Framed m .criticalDone { m with critical := false }
  | exitProg : Framed m .exitProg { m with initialized := true }
  | scriptOverrides : Framed m .scriptOverrides { m with overrides := true }
  | setGlobal : Framed m .setGlobal { m with globalsBase := m.data.length }
  | setLocalVar (v : Value) (index : Int64) (data : Stack) : m.data = v :: .int index :: data →
      0 ≤ index.toInt ∧ index.toInt < m.locals.size →
      Framed m .setLocalVar
        { m with locals := m.locals.setIfInBounds index.toInt.toNat v }

namespace Machine

def Beside (m m' : Machine) : Prop := ∃ data position, m' = { m with data, position }

theorem Beside.refl (m : Machine) : Beside m m := ⟨m.data, m.position, rfl⟩

theorem Beside.trans {m₁ m₂ m₃ : Machine} (h : Beside m₁ m₂) (h' : Beside m₂ m₃) :
    Beside m₁ m₃ := by
  obtain ⟨data, position, rfl⟩ := h
  obtain ⟨data', position', rfl⟩ := h'
  exact ⟨data', position', rfl⟩

end Machine

namespace Exec

open Machine (Beside)

def rest (m : Machine) : Machine := { m with data := [], position := 0 }

theorem beside_of_rest {m m' : Machine} (h : rest m' = rest m) : Beside m m' := by
  refine ⟨m'.data, m'.position, ?_⟩
  cases m
  cases m'
  simp only [rest, Machine.mk.injEq] at h ⊢
  simp [h]

variable {script : Container} {m m' : Machine}

theorem ret_framed {u : Unit} (h : ret script.code m = .ok u m') :
    ∃ m₁, Framed m .ret m₁ ∧ Beside m₁ m' := by
  obtain ⟨result, count, rest, address, calls, -, ⟨hcalls, -⟩, rfl⟩ := ret_eq_ok.mp h
  exact ⟨_, .ret address calls hcalls, _, _, rfl⟩

theorem call_framed {p : Procedure} (h : call script m = .ok p m') :
    ∃ m₁, Framed m .call m₁ ∧ Beside m₁ m' := by
  obtain ⟨index, data, -, -, rfl⟩ := call_eq_ok.mp h
  exact ⟨_, .call, data, _, rfl⟩

theorem pushBase_framed {u : Unit} (h : pushBase m = .ok u m') :
    ∃ m₁, Framed m .pushBase m₁ ∧ Beside m₁ m' := by
  obtain ⟨top, m₁, htop, h⟩ := bind_eq_ok.mp h
  obtain ⟨data, hdata, rfl⟩ := onData_eq_ok.mp htop
  obtain ⟨rfl, hhead⟩ := Stack.top_eq_ok.mp hdata
  obtain ⟨_, m₂, hget, h⟩ := bind_eq_ok.mp h
  obtain ⟨rfl, rfl⟩ := get_eq_ok.mp hget
  obtain ⟨below, hdata⟩ := List.head?_eq_some_iff.mp hhead
  cases top with
  | int n =>
    obtain ⟨hcount, h⟩ := guard_eq_ok.mp h
    obtain ⟨hdepth, h⟩ := guard_eq_ok.mp h
    obtain ⟨_, m₃, hpush, h⟩ := bind_eq_ok.mp h
    obtain ⟨calls, hcalls, rfl⟩ := onCalls_eq_ok.mp hpush
    obtain rfl := Stack.push_eq_ok.mp hcalls
    obtain rfl := modify_eq_ok.mp h
    exact ⟨_, .pushBase n below hdata (Int.not_lt.mp hcount) (Nat.not_lt.mp hdepth), m.data,
      m.position, rfl⟩
  | _ => exact absurd h throw_ne_ok

theorem popBase_framed {u : Unit} (h : popBase m = .ok u m') :
    ∃ m₁, Framed m .popBase m₁ ∧ Beside m₁ m' := by
  obtain ⟨base, m₁, hbase, h⟩ := bind_eq_ok.mp h
  obtain ⟨calls, hcalls, rfl⟩ := onCalls_eq_ok.mp hbase
  have hcalls : m.calls = .int base :: calls := Stack.popInteger_eq_ok.mp hcalls
  obtain ⟨positive, h⟩ := guard_eq_ok.mp h
  obtain rfl := modify_eq_ok.mp h
  exact ⟨_, .popBase base calls hcalls (Int.not_lt.mp positive), m.data, m.position, rfl⟩

variable {turn : Turn}

theorem setLocalVar_framed (h : perform script .setLocalVar m = .ok turn m') :
    ∃ m₁, Framed m .setLocalVar m₁ ∧ Beside m₁ m' := by
  obtain ⟨-, h⟩ := next_eq_ok.mp h
  obtain ⟨v, m₁, hpop, h⟩ := bind_eq_ok.mp h
  obtain ⟨data₁, hdata₁, rfl⟩ := pop_eq_ok.mp hpop
  obtain ⟨index, m₂, hindex, h⟩ := bind_eq_ok.mp h
  obtain ⟨data₂, hdata₂, rfl⟩ := popInteger_eq_ok.mp hindex
  obtain ⟨bounds, rfl⟩ := setLocal_eq_ok.mp h
  have hdata : m.data = v :: .int index :: data₂ := by
    rw [hdata₁]
    exact congrArg _ hdata₂
  exact ⟨_, .setLocalVar v index data₂ hdata bounds, data₂, m.position, rfl⟩

theorem perform_framed {op : Opcode} (h : perform script op m = .ok turn m') :
    ∃ m₁, Framed m op m₁ ∧ Beside m₁ m' := by
  cases plain : op.isPlain with
  | true =>
    have kept := keeps_perform_plain (f := rest) ⟨fun _ _ => rfl, fun _ _ => rfl⟩ script plain m
    rw [left, h] at kept
    exact ⟨m, .plain plain, beside_of_rest kept⟩
  | false =>
    cases op with
    | dataToReturn =>
      obtain ⟨v, m₁, hpop, h⟩ := bind_eq_ok.mp (next_eq_ok.mp h).2
      obtain ⟨data, hdata, rfl⟩ := pop_eq_ok.mp hpop
      obtain ⟨calls, hcalls, rfl⟩ := onCalls_eq_ok.mp h
      obtain rfl := Stack.push_eq_ok.mp hcalls
      exact ⟨_, .dataToReturn v data hdata, data, m.position, rfl⟩
    | returnToData =>
      obtain ⟨v, m₁, hpop, h⟩ := bind_eq_ok.mp (next_eq_ok.mp h).2
      obtain ⟨calls, hcalls, rfl⟩ := onCalls_eq_ok.mp hpop
      have hcalls : m.calls = v :: calls := Stack.pop_eq_ok.mp hcalls
      obtain rfl := push_eq_ok.mp h
      exact ⟨_, .returnToData v calls hcalls, v :: m.data, m.position, rfl⟩
    | criticalStart =>
      obtain rfl := modify_eq_ok.mp (next_eq_ok.mp h).2
      exact ⟨_, .criticalStart, m.data, m.position, rfl⟩
    | criticalDone =>
      obtain rfl := modify_eq_ok.mp (next_eq_ok.mp h).2
      exact ⟨_, .criticalDone, m.data, m.position, rfl⟩
    | setGlobal =>
      obtain rfl := modify_eq_ok.mp (next_eq_ok.mp h).2
      exact ⟨_, .setGlobal, m.data, m.position, rfl⟩
    | scriptOverrides =>
      obtain rfl := modify_eq_ok.mp (next_eq_ok.mp h).2
      exact ⟨_, .scriptOverrides, m.data, m.position, rfl⟩
    | exitProg =>
      obtain ⟨-, -, rfl⟩ := exitProg_eq_ok.mp h
      exact ⟨_, .exitProg, m.data, _, rfl⟩
    | call =>
      obtain ⟨p, m₁, hcall, h⟩ := bind_eq_ok.mp h
      obtain ⟨-, rfl⟩ := pure_eq_ok.mp h
      exact call_framed hcall
    | ret => exact ret_framed (next_eq_ok.mp h).2
    | pushBase => exact pushBase_framed (next_eq_ok.mp h).2
    | popBase => exact popBase_framed (next_eq_ok.mp h).2
    | setLocalVar => exact setLocalVar_framed h
    | _ => contradiction

end Exec

end ScriptMachine
