import ScriptMachine.Proofs.Code.Cursor
import ScriptMachine.Proofs.Machine.Stepping

/-!
# Where instructions leave the position

An instruction goes on behind its opcode and its operand. Six opcodes can go elsewhere, and
then only to an address inside the code: the jump, the two jumps on a false condition, the
call, the return, and the end of startup code, which goes back to the beginning.
-/

namespace ScriptMachine

namespace Reader

variable {α : Type} {width : Nat}

def Passes (width : Nat) (read : Work α) : Prop :=
  ∀ r a r', read r = .ok a r' → r'.position = r.position + width

theorem Decodes.passes {means : List UInt8 → α → Prop} {read : Work α}
    (h : Decodes width means read) : Passes width read := by
  intro r a r' hread
  obtain ⟨whole, short⟩ := h r
  rcases Nat.lt_or_ge r.size (r.position + width) with cut | fits
  · rw [short cut] at hread
    contradiction
  · obtain ⟨_, hwhole, -⟩ := whole fits
    rw [hwhole] at hread
    cases hread
    rfl

theorem passes_uint32 : Passes 4 uint32 := decodes_uint32.passes

theorem passes_int32 : Passes 4 int32 := decodes_int32.passes

theorem passes_float32 : Passes 4 float32 := decodes_float32.passes

end Reader

def Opcode.transfers : Opcode → Bool
  | .jump | .jumpUnless | .loopUnless | .call | .ret | .exitProg => true
  | _ => false

theorem Opcode.operandSize_of_still {op : Opcode} (still : op.isMoving = false) :
    op.operandSize = 0 := by
  cases op <;> first | rfl | contradiction

inductive Leads (script : Container) (next : Nat) (data calls : Stack) : Opcode → Nat → Prop where
  | onward {op : Opcode} : op.transfers = false →
      Leads script next data calls op (next + op.operandSize)
  | holding {op : Opcode} (condition : Value) (below : Stack) :
      op = .jumpUnless ∨ op = .loopUnless → data = condition :: below → condition.isTrue = true →
      Leads script next data calls op next
  | failing {op : Opcode} (condition : Value) (address : Int64) (below : Stack) :
      op = .jumpUnless ∨ op = .loopUnless → data = condition :: .int address :: below →
      condition.isTrue = false → 0 ≤ address.toInt ∧ address.toInt < script.size →
      Leads script next data calls op address.toInt.toNat
  | jump (address : Int64) (below : Stack) : data = .int address :: below →
      0 ≤ address.toInt ∧ address.toInt < script.size →
      Leads script next data calls .jump address.toInt.toNat
  | call (index : Int64) (p : Procedure) (below : Stack) : data = .int index :: below →
      0 ≤ index.toInt → script.procedureAt? index.toInt.toNat = some p →
      p.body.toNat < script.size → Leads script next data calls .call p.body.toNat
  | ret (address : Int64) (below : Stack) : calls = .int address :: below →
      0 ≤ address.toInt ∧ address.toInt < script.size →
      Leads script next data calls .ret address.toInt.toNat
  | exitProg : 0 < script.size → Leads script next data calls .exitProg 0

namespace Exec

variable {α β : Type} {script : Container} {m m' : Machine} {turn : Turn}

theorem position_of_keeps {x : Exec α} {a : α} (hx : Keeps (·.position) x)
    (h : x m = .ok a m') : m'.position = m.position := by
  have kept := hx m
  simp only [left, h] at kept
  exact kept

theorem unframing_position : Unframing (·.position) :=
  ⟨fun _ _ => rfl, fun _ _ => rfl, fun _ _ => rfl, fun _ _ => rfl, fun _ _ => rfl⟩

/-- Work that reads a field first and then leaves the position alone. -/
theorem position_of_operand {code : Array UInt8} {width : Nat} {read : Reader.Work α}
    {k : α → Exec β} {b : β}
    (passes : Reader.Passes width read) (hk : ∀ a, Keeps (·.position) (k a))
    (h : (operand code read >>= k) m = .ok b m') : m'.position = m.position + width := by
  obtain ⟨a, m₁, hread, h⟩ := bind_eq_ok.mp h
  obtain ⟨r, hr, rfl⟩ := operand_eq_ok.mp hread
  rw [position_of_keeps (hk a) h]
  exact passes _ a r hr

/-- An instruction that does not go elsewhere goes on behind its operand. -/
theorem position_perform {op : Opcode} (fixed : op.transfers = false)
    (h : perform script op m = .ok turn m') : m'.position = m.position + op.operandSize := by
  have view := unframing_position
  have pushed (v : Value) : Keeps (·.position) (push v) := keeps_push view.data v
  cases moving : op.isMoving with
  | false =>
    rw [Opcode.operandSize_of_still moving]
    cases lasting : op.isLasting with
    | false => exact position_of_keeps (keeps_perform_unframing view script moving lasting) h
    | true =>
      cases op with
      | scriptOverrides =>
        obtain rfl := modify_eq_ok.mp (next_eq_ok.mp h).2
        rfl
      | setLocalVar =>
        refine position_of_keeps ((keeps_pop view.data).bind fun _ =>
          (keeps_popInteger view.data).bind fun _ => keeps_setLocal ?_ _ _) (next_eq_ok.mp h).2
        exact fun _ _ => rfl
      | _ => contradiction
  | true =>
    cases op with
    | pushInt =>
      exact position_of_operand Reader.passes_int32 (fun _ => pushed _) (next_eq_ok.mp h).2
    | pushFloat =>
      exact position_of_operand Reader.passes_float32 (fun _ => pushed _) (next_eq_ok.mp h).2
    | pushString =>
      refine position_of_operand Reader.passes_uint32 (fun offset => keeps_get.bind fun m => ?_)
        (next_eq_ok.mp h).2
      cases if beforeVariableName m script.code then script.identifier? offset
        else script.string? offset with
      | some s => exact pushed _
      | none => exact keeps_throw _
    | _ => contradiction

theorem leads_jumpUnless {op : Opcode} (hop : op = .jumpUnless ∨ op = .loopUnless)
    {u : Unit} (h : jumpUnless script.code m = .ok u m') :
    Leads script m.position m.data m.calls op m'.position := by
  obtain ⟨holds, m₁, hcondition, h⟩ := bind_eq_ok.mp h
  obtain ⟨condition, data, ⟨hdata, htrue⟩, rfl⟩ := popLogical_eq_ok.mp hcondition
  obtain ⟨address, m₂, haddress, h⟩ := bind_eq_ok.mp h
  obtain ⟨below, hbelow, rfl⟩ := popInteger_eq_ok.mp haddress
  obtain rfl : data = .int address :: below := hbelow
  cases holds with
  | true =>
    obtain ⟨-, rfl⟩ := pure_eq_ok.mp h
    exact .holding condition _ hop hdata htrue
  | false =>
    obtain ⟨inside, rfl⟩ := jump_eq_ok.mp h
    exact .failing condition address below hop hdata htrue inside

theorem leads_perform {op : Opcode} (h : perform script op m = .ok turn m') :
    Leads script m.position m.data m.calls op m'.position := by
  cases fixed : op.transfers with
  | false =>
    rw [position_perform fixed h]
    exact .onward fixed
  | true =>
    cases op with
    | jump =>
      obtain ⟨address, m₁, haddress, h⟩ := bind_eq_ok.mp (next_eq_ok.mp h).2
      obtain ⟨below, hdata, rfl⟩ := popInteger_eq_ok.mp haddress
      obtain ⟨inside, rfl⟩ := jump_eq_ok.mp h
      exact .jump address below hdata inside
    | jumpUnless => exact leads_jumpUnless (.inl rfl) (next_eq_ok.mp h).2
    | loopUnless => exact leads_jumpUnless (.inr rfl) (next_eq_ok.mp h).2
    | call =>
      obtain ⟨p, m₁, hcall, h⟩ := bind_eq_ok.mp h
      obtain ⟨-, rfl⟩ := pure_eq_ok.mp h
      obtain ⟨index, below, ⟨hdata, positive, found⟩, inside, rfl⟩ := call_eq_ok.mp hcall
      exact .call index p below hdata positive found inside
    | ret =>
      obtain ⟨_, _, _, address, below, -, ⟨hcalls, inside⟩, rfl⟩ := ret_eq_ok.mp (next_eq_ok.mp h).2
      exact .ret address below hcalls inside
    | exitProg =>
      obtain ⟨inside, -, rfl⟩ := exitProg_eq_ok.mp h
      exact .exitProg inside
    | _ => contradiction

end Exec

end ScriptMachine
