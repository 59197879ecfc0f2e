import ScriptMachine.Config.Basic
import ScriptMachine.Machine.Step

/-!
# Sessions

One instance of a script, usually bound to an object of the world. A run is a sequence of
ticks, one instruction each. It ends at the end of the code, when control comes back to
the start of the code, at a halt, when its budget of ticks is spent, or at a fault.
-/

namespace ScriptMachine

inductive Status where
  | notInitialized
  | running
  | idle
  | halted
deriving DecidableEq

inductive Outcome where
  | completed
  | halted
  | aborted (fault : Fault)
  | noSuchProcedure
  | alreadyInitialized
deriving DecidableEq

structure Session where
  script : Container
  machine : Machine
  status : Status := .notInitialized
  maxTicks : Option Nat := none

namespace Session

def new (script : Container) (owner : Option Handle) (config : Config) : Session :=
  { script, machine := .new owner config.localCount, maxTicks := config.maxTicks }

def step {σ : Type} (host : Host σ) (s : Session) (w : World σ) :
    StepOutcome × Session × World σ :=
  let (outcome, machine, w) := s.machine.step s.script host w
  (outcome, { s with machine }, w)

end Session

structure Run (σ : Type) where
  session : Session
  world : World σ
  base : Nat
  ticks : Nat := 0

inductive Progress (σ : Type) where
  | going (run : Run σ)
  | ended (outcome : Outcome) (session : Session) (world : World σ)

namespace Machine

/-- The machine after a fault: nothing is left on its stacks but a stand-in for the
result. -/
def unwind (m : Machine) : Machine :=
  { m with data := [.int 0], globalsBase := 0 }.resetFrames

/-- The machine after a halt: only what the run pushed is dropped, and a stand-in for the
result is pushed. -/
def unwindHalt (m : Machine) (base : Nat) : Machine :=
  { m with data := .int 0 :: m.data.truncate base }.resetFrames

end Machine

namespace Run

variable {σ : Type}

def abandon (s : Session) (w : World σ) (fault : Fault) : Progress σ :=
  let m := s.machine
  .ended (.aborted fault) { s with machine := m.unwind }
    (w.note (.abandoned s.script.name m.opcode m.opcodeOffset fault))

def spent (r : Run σ) : Option Nat :=
  r.session.maxTicks.filter (· ≤ r.ticks)

def tick (host : Host σ) (r : Run σ) : Progress σ :=
  let s := r.session
  if s.machine.atEnd s.script.code then .ended .completed s r.world
  else match r.spent with
    | some limit => abandon s r.world (.tickLimitExceeded limit)
    | none =>
      match s.step host r.world with
      | (.continuing, s, w) =>
        if s.machine.position = 0 then .ended .completed s w
        else .going { r with session := s, world := w, ticks := r.ticks + 1 }
      | (.halted, s, w) =>
        .ended .halted { s with machine := s.machine.unwindHalt r.base }
          (w.note (.halted s.script.name (r.ticks + 1)))
      | (.failed fault, s, w) => abandon s w fault

end Run

namespace Progress

variable {σ : Type}

def advance (host : Host σ) : Nat → Progress σ → Progress σ
  | 0, p => p
  | _ + 1, .ended outcome s w => .ended outcome s w
  | n + 1, .going r => advance host n (r.tick host)

end Progress

end ScriptMachine
