import ScriptMachine.Session.Basic

/-!
# Initializing and calling

The two commands a host gives to a session. Startup code runs at most once. A call of a
procedure that does not exist does nothing. Whatever way a run ends, the value it left as
its result is dropped and the session is ready for the next command.
-/

namespace ScriptMachine

inductive Command where
  | setUp
  | call (procedure : String) (context : CallContext)

inductive Begun (σ : Type) where
  | declined (outcome : Outcome) (session : Session) (world : World σ)
  | started (progress : Progress σ)

namespace Session

variable {σ : Type}

def runFrom (s : Session) (w : World σ) (address : Nat) (prepare : Machine → Machine) :
    Progress σ :=
  if address < s.script.size then
    .going
      { session := { s with
          machine := prepare { s.machine with position := address }
          status := .running }
        world := w
        base := s.machine.data.length }
  else Run.abandon s w (.addressOutOfRange (.ofNat address))

/-- The machine of a call: a count of no arguments, and the address that ends the run. -/
def prepareCall (m : Machine) : Machine :=
  { m with data := .int 0 :: m.data, calls := .int 0 :: m.calls }

def begin (command : Command) (s : Session) (w : World σ) : Begun σ :=
  match command with
  | .setUp =>
    if s.machine.initialized then .declined .alreadyInitialized s w
    else .started (s.runFrom (w.note (.initializing s.script.name)) 0 id)
  | .call procedure context =>
    let s := { s with machine := { s.machine with overrides := false } }
    match s.script.procedure? procedure with
    | none =>
      .declined .noSuchProcedure s (w.note (.noSuchProcedure s.script.name procedure))
    | some p =>
      let s := { s with machine := { s.machine with context } }
      .started (s.runFrom (w.note (.calling s.script.name procedure p.body.toNat)) p.body.toNat
        prepareCall)

def discardResult (s : Session) (w : World σ) : Session × World σ :=
  match s.machine.data with
  | [] => (s, w.note (.noResult s.script.name))
  | _ :: rest => ({ s with machine := { s.machine with data := rest } }, w)

def settled (command : Command) (m : Machine) : Machine :=
  match command with
  | .setUp => { m with initialized := true }
  | .call _ _ => { m with context := {} }

def conclude (command : Command) (outcome : Outcome) (s : Session) (w : World σ) :
    Outcome × Session × World σ :=
  let (s, w) := s.discardResult w
  let status := if outcome = .halted then .halted else .idle
  (outcome, { s with machine := settled command s.machine, status }, w)

def obey (host : Host σ) (fuel : Nat) (command : Command) (s : Session) (w : World σ) :
    Option (Outcome × Session × World σ) :=
  match s.begin command w with
  | .declined outcome s w => some (outcome, s, w)
  | .started p =>
    match p.advance host fuel with
    | .ended outcome s w => some (s.conclude command outcome w)
    | .going _ => none

/-- Ticks that let every run end that has a budget, and without one any run that ends in
the time a machine can be left running. -/
def patience (s : Session) : Nat :=
  match s.maxTicks with
  | some limit => limit + 1
  | none => Int64.maxValue.toInt.toNat

end Session

end ScriptMachine
