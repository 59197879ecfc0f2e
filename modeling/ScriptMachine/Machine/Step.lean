import ScriptMachine.Machine.Perform

/-!
# One step

A step fetches the opcode at the position and performs it.
-/

namespace ScriptMachine

inductive StepOutcome where
  | continuing
  | halted
  | failed (fault : Fault)
deriving DecidableEq

namespace Machine

variable {σ : Type}

/-- Executes the instruction of an opcode whose number has been read already. An
undefined number is reported as the one last fetched. -/
def execute (script : Container) (host : Host σ) (code : UInt16) (m : Machine) (w : World σ) :
    StepOutcome × Machine × World σ :=
  match Opcode.ofCode? code with
  | none => (.failed (.unknownOpcode m.opcode), m, w)
  | some op =>
    match Act.perform script host op (m, w) with
    | .ok .proceed after => (.continuing, after)
    | .ok .halt after => (.halted, after)
    | .error e after => (.failed e, after)

def step (script : Container) (host : Host σ) (m : Machine) (w : World σ) :
    StepOutcome × Machine × World σ :=
  match Reader.uint16 (m.reader script.code) with
  | .error e r =>
    (.failed (.addressOutOfRange (.ofNat e.offset)), { m with position := r.position }, w)
  | .ok code r =>
    let m' := { m with position := r.position, opcode := code, opcodeOffset := m.position }
    m'.execute script host code (w.note (.executing m.position code))

end Machine

end ScriptMachine
