import ScriptMachine.Machine.Fault

/-!
# Value stacks

A stack is a list with its top first. Slots are counted from the bottom. An operation
that fails keeps what it had already done: a value of the wrong kind is gone once popped.
-/

namespace ScriptMachine

abbrev Stack := List Value

namespace Stack

/-- Work on a stack that may fail, leaving the stack as it was at the failure. -/
abbrev Work := EStateM Fault Stack

def bottomUp (s : Stack) : List Value := s.reverse

def push (v : Value) : Work Unit := modify (v :: ·)

def pop : Work Value := do
  match ← get with
  | [] => throw .stackUnderflow
  | v :: rest =>
    set rest
    return v

def top : Work Value := do
  match ← get with
  | [] => throw .stackUnderflow
  | v :: _ => return v

def truncate (s : Stack) (n : Nat) : Stack := s.drop (s.length - n)

def slot (index : Nat) : Work Value := do
  match (← get).bottomUp[index]? with
  | some v => return v
  | none => throw (.slotOutOfRange (.ofNat index))

def setSlot (index : Nat) (v : Value) : Work Unit := do
  let s ← get
  if index < s.length then set (s.bottomUp.set index v).reverse
  else throw (.slotOutOfRange (.ofNat index))

def dropMany (n : Nat) : Work Unit := do
  let s ← get
  set (s.drop n)
  if s.length < n then throw .stackUnderflow

def popAs {α : Type} (expected : Expectation) (view : Value → Option α) : Work α := do
  let v ← pop
  match view v with
  | some a => return a
  | none => throw (.typeMismatch expected v.kind)

def popInteger : Work Int64 := popAs .integer Value.int?

def popNumber : Work Value := popAs .number fun v => if v.kind.isNumeric then some v else none

def popString : Work String := popAs .string Value.text?

def popObject : Work Handle := popAs .object Value.object?

def popLogical : Work Bool := Value.isTrue <$> pop

end Stack

end ScriptMachine
