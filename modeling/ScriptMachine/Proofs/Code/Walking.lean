import ScriptMachine.Code.Assembly
import ScriptMachine.Proofs.Code.Reading

/-!
# Walking through code

Code is read word by word, and what a word's number means decides whether four bytes of operand
follow it. So one byte too many or too few at any place changes what all of the rest is read as.
The code of items is read as these items, each in its place.
-/

namespace ScriptMachine

structure CodeWord where
  code : UInt16
  operand : Option UInt32 := none
deriving DecidableEq

def CodeWord.hasOperand (code : UInt16) : Bool :=
  (Opcode.ofCode? code).any (·.operandSize = 4)

namespace Reader

def codeWord : Work CodeWord := do
  let code ← uint16
  if CodeWord.hasOperand code then
    let operand ← uint32
    return ⟨code, some operand⟩
  else return ⟨code, none⟩

section

variable {r r' : Reader} {code : UInt16} {operand : UInt32}

theorem codeWord_of_operand (hcode : uint16 r = .ok code r') (has : CodeWord.hasOperand code = true)
    {r'' : Reader} (hoperand : uint32 r' = .ok operand r'') :
    codeWord r = .ok ⟨code, some operand⟩ r'' := by
  simp only [codeWord, Bind.bind, EStateM.bind, hcode, has, if_true, hoperand]
  rfl

theorem codeWord_of_bare (hcode : uint16 r = .ok code r')
    (bare : CodeWord.hasOperand code = false) : codeWord r = .ok ⟨code, none⟩ r' := by
  simp only [codeWord, Bind.bind, EStateM.bind, hcode, bare, Bool.false_eq_true, if_false]
  rfl

theorem remaining_of_number {α : Type} {view : Nat → α} {width : Nat} {a : α}
    (h : number width view r = .ok a r') : r'.remaining + width = r.remaining := by
  rcases Nat.lt_or_ge r.remaining width with short | fits
  · rw [number_of_lt short] at h
    contradiction
  · rw [number_of_le fits] at h
    cases h
    simp only [remaining, size] at *
    omega

theorem remaining_of_codeWord {word : CodeWord} (h : codeWord r = .ok word r') :
    r'.remaining < r.remaining := by
  cases hcode : uint16 r with
  | error e r₁ =>
    simp only [codeWord, Bind.bind, EStateM.bind, hcode] at h
    contradiction
  | ok code r₁ =>
    have first := remaining_of_number hcode
    cases has : CodeWord.hasOperand code with
    | false =>
      rw [codeWord_of_bare hcode has] at h
      cases h
      omega
    | true =>
      cases hoperand : uint32 r₁ with
      | error e r₂ =>
        simp only [codeWord, Bind.bind, EStateM.bind, hcode, has, if_true, hoperand] at h
        contradiction
      | ok operand r₂ =>
        have second := remaining_of_number hoperand
        rw [codeWord_of_operand hcode has hoperand] at h
        cases h
        omega

end

def walk (r : Reader) : Except OutOfBounds (List (Nat × CodeWord)) :=
  if r.remaining = 0 then .ok []
  else
    match _h : codeWord r with
    | .error e _ => .error e
    | .ok word r' => r'.walk.map ((r.position, word) :: ·)
termination_by r.remaining
decreasing_by exact remaining_of_codeWord _h

theorem walk_of_codeWord {r r' : Reader} {word : CodeWord} (h : codeWord r = .ok word r') :
    r.walk = r'.walk.map ((r.position, word) :: ·) := by
  have more : r.remaining ≠ 0 := Nat.ne_of_gt (Nat.zero_lt_of_lt (remaining_of_codeWord h))
  rw [walk, if_neg more]
  split
  · rename_i hword
    rw [h] at hword
    contradiction
  · rename_i hword
    rw [h] at hword
    cases hword
    rfl

theorem walk_of_atEnd (behind : List UInt8) : (between behind []).walk = .ok [] := by
  have done : (between behind []).remaining = 0 := remaining_between behind []
  rw [walk, if_pos done]

end Reader

namespace CodeItem

def asWord (address : Label → UInt32) : CodeItem → CodeWord
  | .word code => ⟨code, none⟩
  | .int n => ⟨Opcode.pushInt.code, some n.toUInt32⟩
  | .float bits => ⟨Opcode.pushFloat.code, some bits⟩
  | .text offset => ⟨Opcode.pushString.code, some offset⟩
  | .address label => ⟨Opcode.pushInt.code, some (address label)⟩

/-- The numbers of literal pushes stand for items of their own. -/
def Sound : CodeItem → Prop
  | .word code => CodeWord.hasOperand code = false
  | _ => True

def asWords (address : Label → UInt32) : Nat → List CodeItem → List (Nat × CodeWord)
  | _, [] => []
  | place, item :: rest => (place, item.asWord address) :: asWords address (place + item.size) rest

variable (behind ahead : List UInt8)

theorem codeWord_literal {op : Opcode} (literal : op.operandSize = 4) (operand : UInt32) :
    Reader.codeWord (.between behind (CodeItem.literal op operand ++ ahead)) =
      .ok ⟨op.code, some operand⟩ (.between (behind ++ CodeItem.literal op operand) ahead) := by
  have has : CodeWord.hasOperand op.code = true := by
    rw [CodeWord.hasOperand, Opcode.ofCode?_code, Option.any_some, decide_eq_true literal]
  rw [CodeItem.literal, List.append_assoc, ← List.append_assoc behind]
  exact Reader.codeWord_of_operand (Reader.uint16_between ..) has (Reader.uint32_between ..)

theorem codeWord_encode (address : Label → UInt32) {item : CodeItem} (sound : item.Sound) :
    Reader.codeWord (.between behind (item.encode address ++ ahead)) =
      .ok (item.asWord address) (.between (behind ++ item.encode address) ahead) := by
  cases item with
  | word code => exact Reader.codeWord_of_bare (Reader.uint16_between ..) sound
  | int | float | text | address => exact codeWord_literal behind ahead rfl _

theorem walk_encode (address : Label → UInt32) {items : List CodeItem}
    (sound : ∀ item ∈ items, item.Sound) :
    (Reader.between behind (items.flatMap (encode address))).walk =
      .ok (asWords address behind.length items) := by
  induction items generalizing behind with
  | nil => exact Reader.walk_of_atEnd behind
  | cons item rest ih =>
    obtain ⟨first, others⟩ := List.forall_mem_cons.mp sound
    rw [List.flatMap_cons, Reader.walk_of_codeWord (codeWord_encode behind _ address first),
      ih _ others, List.length_append, length_encode]
    rfl

end CodeItem

end ScriptMachine
