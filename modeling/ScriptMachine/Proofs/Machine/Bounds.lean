import ScriptMachine.Proofs.Code.Cursor
import ScriptMachine.Proofs.Machine.Stepping

/-!
# The position stays inside the code

No instruction leaves the position beyond the end of the code if it was not beyond it before,
whether the instruction succeeds or fails. A field that the code cuts off is not passed, and
a jump that succeeds goes inside.
-/

namespace ScriptMachine

namespace Reader

variable {α : Type} {width : Nat}

def Field (width : Nat) (read : Work α) : Prop :=
  ∀ r, (r.position + width ≤ r.size ∧
      ∃ a, read r = .ok a { r with position := r.position + width }) ∨
    r.size < r.position + width ∧ read r = .error ⟨r.position, width, r.size⟩ r

theorem Decodes.field {means : List UInt8 → α → Prop} {read : Work α}
    (h : Decodes width means read) : Field width read := by
  intro r
  obtain ⟨whole, short⟩ := h r
  rcases Nat.lt_or_ge r.size (r.position + width) with cut | fits
  · exact .inr ⟨cut, short cut⟩
  · obtain ⟨a, hread, -⟩ := whole fits
    exact .inl ⟨fits, a, hread⟩

theorem field_uint16 : Field 2 uint16 := decodes_uint16.field

theorem field_uint32 : Field 4 uint32 := decodes_uint32.field

theorem field_int32 : Field 4 int32 := decodes_int32.field

theorem field_float32 : Field 4 float32 := decodes_float32.field

end Reader

namespace Exec

variable {α β : Type} {script : Container} {code : Array UInt8}

def Confined (code : Array UInt8) (x : Exec α) : Prop :=
  ∀ m, m.position ≤ code.size → (x.left m).position ≤ code.size

theorem Keeps.confined {x : Exec α} (h : Keeps (·.position) x) : Confined code x := by
  intro m inside
  exact Nat.le_trans (Nat.le_of_eq (h m)) inside

theorem Confined.bind {x : Exec α} {k : α → Exec β} (hx : Confined code x)
    (hk : ∀ a, Confined code (k a)) : Confined code (x >>= k) := by
  intro m inside
  have first := hx m inside
  simp only [left, Bind.bind, EStateM.bind] at first ⊢
  cases h : x m with
  | ok a m' =>
    rw [h] at first
    exact hk a m' first
  | error e m' =>
    rw [h] at first
    exact first

theorem Confined.ite {c : Prop} [Decidable c] {x y : Exec α} (hx : Confined code x)
    (hy : Confined code y) : Confined code (if c then x else y) := by
  split
  · exact hx
  · exact hy

theorem Confined.guard {c : Prop} [Decidable c] {e : Fault} {x : Exec α} (hx : Confined code x) :
    Confined code (if c then (throw e : Exec Unit) >>= fun _ => x else pure () >>= fun _ => x) :=
  .ite ((keeps_throw e).confined.bind fun _ => hx) ((keeps_pure ()).confined.bind fun _ => hx)

theorem confined_jump (address : Int64) : Confined code (jump code address) := by
  intro m inside
  by_cases h : 0 ≤ address.toInt ∧ address.toInt < code.size
  · rw [jump, if_pos h]
    change address.toInt.toNat ≤ code.size
    omega
  · rw [jump, if_neg h]
    exact inside

theorem confined_operand {width : Nat} {read : Reader.Work α}
    (field : Reader.Field width read) : Confined code (operand code read) := by
  intro m inside
  rw [left, operand]
  rcases field (m.reader code) with ⟨fits, a, hread⟩ | ⟨cut, hread⟩
  · rw [hread]
    exact fits
  · rw [hread]
    exact inside

theorem Confined.next {x : Exec Unit} (hx : Confined code x) : Confined code (next x) :=
  hx.bind fun _ => (keeps_pure _).confined

theorem confined_perform (script : Container) (op : Opcode) :
    Confined script.code (perform script op) := by
  have view : Unframing (·.position) :=
    ⟨fun _ _ => rfl, fun _ _ => rfl, fun _ _ => rfl, fun _ _ => rfl, fun _ _ => rfl⟩
  have popInteger : Confined script.code popInteger := (keeps_popInteger view.data).confined
  have pushed (v : Value) : Confined script.code (push v) := (keeps_push view.data v).confined
  cases moving : op.isMoving with
  | false =>
    cases lasting : op.isLasting with
    | false => exact (keeps_perform_unframing view script moving lasting).confined
    | true =>
      cases op with
      | scriptOverrides =>
        refine (Keeps.confined (keeps_modify ?_)).next
        exact fun _ => rfl
      | setLocalVar =>
        refine (Keeps.confined ((keeps_pop view.data).bind fun _ =>
          (keeps_popInteger view.data).bind fun _ => keeps_setLocal ?_ _ _)).next
        exact fun _ _ => rfl
      | _ => contradiction
  | true =>
    cases op with
    | pushInt => exact ((confined_operand Reader.field_int32).bind fun _ => pushed _).next
    | pushFloat => exact ((confined_operand Reader.field_float32).bind fun _ => pushed _).next
    | pushString =>
      refine Confined.next ((confined_operand Reader.field_uint32).bind fun offset =>
        keeps_get.confined.bind fun m => ?_)
      cases if beforeVariableName m script.code then script.identifier? offset
        else script.string? offset with
      | some s => exact pushed _
      | none => exact (keeps_throw _).confined
    | jump => exact (popInteger.bind fun _ => confined_jump _).next
    | jumpUnless | loopUnless =>
      exact ((keeps_popLogical view.data).confined.bind fun _ => popInteger.bind fun _ =>
        .ite (keeps_pure _).confined (confined_jump _)).next
    | call =>
      refine Confined.bind ?_ fun _ => (keeps_pure _).confined
      exact popInteger.bind fun index => (keeps_procedureAt script index).confined.bind fun p =>
        keeps_get.confined.bind fun _ => (keeps_onCalls view.calls _).confined.bind fun _ =>
          (confined_jump _).bind fun _ => (keeps_pure _).confined
    | ret =>
      refine Confined.next ((keeps_pop view.data).confined.bind fun result =>
        popInteger.bind fun count => ?_)
      exact .guard ((keeps_onData view.data _).confined.bind fun _ =>
        (keeps_onCalls view.calls _).confined.bind fun address =>
          (keeps_push view.data result).confined.bind fun _ => confined_jump _)
    | exitProg =>
      refine Confined.next (Confined.bind (Keeps.confined (keeps_modify ?_)) fun _ =>
        confined_jump _)
      exact fun _ => rfl
    | _ => contradiction

end Exec

namespace Machine

variable {σ : Type}

theorem position_execute (script : Container) (host : Host σ) (op : Opcode) (m : Machine)
    (w : World σ) : (m.execute script host op.code w).2.1.position =
      ((Exec.perform script op).left m).position := by
  rw [execute_of_some host m w op.ofCode?_code, Exec.left]
  cases Exec.perform script op m with
  | error e m₁ => rfl
  | ok turn m₁ =>
    obtain ⟨_, v, _, hsettle, -⟩ := settle_cases host turn m₁ w
    simp only [finish, hsettle]
    cases v <;> rfl

/-- A step does not leave the code, whatever comes of it. -/
theorem position_step_le {script : Container} {m : Machine} (host : Host σ) (w : World σ)
    (inside : m.position ≤ script.size) : (m.step script host w).2.1.position ≤ script.size := by
  rw [step]
  rcases Reader.field_uint16 (m.reader script.code) with ⟨fits, code, hread⟩ | ⟨cut, hread⟩
  · simp only [hread]
    cases hop : Opcode.ofCode? code with
    | none =>
      rw [execute_of_none _ _ _ hop]
      exact fits
    | some op =>
      obtain rfl := Opcode.code_of_ofCode? hop
      rw [position_execute]
      exact Exec.confined_perform script op _ fits
  · simp only [hread]
    exact inside

end Machine

end ScriptMachine
