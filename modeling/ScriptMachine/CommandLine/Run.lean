import ScriptMachine.CommandLine.Args
import ScriptMachine.CommandLine.Listing
import ScriptMachine.Config.Decode
import ScriptMachine.Host.Console
import ScriptMachine.Log.Decoding
import ScriptMachine.Log.Line
import ScriptMachine.Session.Command
import ScriptMachine.Source.Directory

/-!
# The command

Loads a script, then lists it or initializes it and makes the calls asked for, on the
console host. What happens is printed as log lines. The command reaches files and its
output through a terminal alone.
-/

namespace ScriptMachine

namespace Config

def optionText : Option Nat → String
  | none => "None"
  | some n => wrapped "Some" (toString n)

def detailed (c : Config) : String :=
  labelled "VmConfig"
    [(ticksName, optionText c.maxTicks), (localsName, toString c.localCount)]

end Config

def Outcome.detailed : Outcome → String
  | .completed => "Completed"
  | .halted => "Halted"
  | .aborted fault => wrapped "Aborted" fault.detailed
  | .noSuchProcedure => "NoSuchProcedure"
  | .alreadyInitialized => "AlreadyInitialized"

structure Terminal (m : Type → Type) where
  openFile : Directory.Opener m
  printLine : String → m Unit

inductive Exit where
  | success
  | usage (error : UsageError)
  | failure (report : List String)

namespace Exit

def code : Exit → Nat
  | .success | .usage .help => 0
  | .failure _ => 1
  | .usage _ => 2

end Exit

namespace CommandLine

variable {m : Type → Type} [Monad m]

def noLocals : String := "local variable count must be at least 1"

/-- The text of a configuration file. A file that cannot be read counts as empty. -/
def configText? : Except FileError (Array UInt8) → Option String
  | .ok bytes => String.fromUTF8? ⟨bytes⟩
  | .error _ => some ""

def limits (t : Terminal m) (args : Args) : m (Except (List String) Config) := do
  let base ← match args.configFile with
    | none => pure (some {})
    | some path => do pure ((configText? (← t.openFile path)).bind Config.ofYaml?)
  match base, args.configFile with
  | some c, _ =>
    match args.applyLimits c with
    | some c => return .ok c
    | none => return .error [noLocals]
  | none, path =>
    return .error ["Failed to parse configuration from " ++ Text.quoted (path.getD "")]

def printLog (t : Terminal m) (log : Log) : m Unit :=
  log.records.toList.forM fun r => t.printLine r.line

def say (t : Terminal m) (level : Level) (message : String)
    (fields : List (String × FieldText)) : m Unit :=
  printLog t (({ threshold := some .trace } : Log).add ⟨level, message, fields⟩)

/-- Carries out a command and prints what it reported. The answer is missing if the run
does not end. -/
def obey (t : Terminal m) (command : Command) (s : Session) (w : World Console) :
    m (Option (Outcome × Session × World Console)) := do
  match s.obey Console.host s.patience command w with
  | none => return none
  | some (outcome, s, w) =>
    printLog t w.log
    return some (outcome, s, { w with log := { w.log with records := #[] } })

def callLine (name : String) (outcome : Outcome) (s : Session) :
    Level × String × List (String × FieldText) :=
  match outcome with
  | .noSuchProcedure => (.warn, "No such procedure", [("procedure", .shown name)])
  | outcome =>
    (.info, "Call finished",
      [("procedure", .shown name), ("outcome", .shown outcome.detailed),
        ("overrides", .shown (toString s.machine.overrides))])

def calls (t : Terminal m) (context : CallContext) (s : Session) (w : World Console) :
    List String → m Unit
  | [] => return ()
  | name :: rest => do
    match ← obey t (.call name context) s w with
    | none => return ()
    | some (outcome, s, w) =>
      let (level, message, fields) := callLine name outcome s
      say t level message fields
      calls t context s w rest

def play (t : Terminal m) (args : Args) (config : Config) (dice : Dice) (script : Container) :
    m Unit := do
  say t .info "Loaded script"
    [("script", .own script.name), ("config", .shown config.detailed)]
  let threshold := if args.debug then Level.debug else Level.info
  let w : World Console := { host := {}, dice, log := { threshold := some threshold } }
  match ← obey t .setUp (.new script none config) w with
  | none => return ()
  | some (outcome, s, w) =>
    say t .info "Initialized" [("outcome", .shown outcome.detailed)]
    calls t { source := Console.player, fixedParam := args.fixedParam } s w args.calls

def load (t : Terminal m) (args : Args) : m (Except LoadError Container) := do
  let found ← Directory.read t.openFile args.scriptDir args.script
  let threshold := if args.debug then Level.debug else Level.info
  if let .ok bytes := found then
    printLog t (({ threshold := some threshold } : Log).noteAll
      (Container.decodeEvents args.script bytes))
  return Container.ofFile args.script found

def run (t : Terminal m) (dice : Dice) (words : List String) : m Exit := do
  match Args.parse words with
  | .error e => return .usage e
  | .ok args =>
    match ← limits t args with
    | .error report => return .failure report
    | .ok config =>
      match ← load t args with
      | .error e => return .failure e.report
      | .ok script =>
        if args.inspect then script.listing.forM t.printLine
        else play t args config dice script
        return .success

end CommandLine

end ScriptMachine
