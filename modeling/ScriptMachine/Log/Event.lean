import ScriptMachine.Container.Basic
import ScriptMachine.Host.Request
import ScriptMachine.Machine.Fault
import ScriptMachine.Value.Text

/-!
# Log events

What decoding, a run and a host have to report. An event has a level, a message and
named fields; a log keeps the events up to its threshold, in order.
-/

namespace ScriptMachine

inductive Level where
  | error
  | warn
  | info
  | debug
  | trace
deriving DecidableEq

namespace Level

def rank : Level → Nat
  | .error => 0
  | .warn => 1
  | .info => 2
  | .debug => 3
  | .trace => 4

def name : Level → String
  | .error => "ERROR"
  | .warn => "WARN"
  | .info => "INFO"
  | .debug => "DEBUG"
  | .trace => "TRACE"

end Level

inductive FieldText where
  | own (text : String)
  | shown (text : String)

def FieldText.text : FieldText → String
  | .own text | .shown text => text

structure LogRecord where
  level : Level
  message : String
  fields : List (String × FieldText)

inductive Event where
  | unexpectedSignature (container : String) (signature : UInt32)
  | decoded (container : Container)
  | initializing (script : String)
  | noSuchProcedure (script procedure : String)
  | calling (script procedure : String) (body : Nat)
  | entering (procedure : String) (body : Nat)
  | executing (offset : Nat) (code : UInt16)
  | halted (script : String) (ticks : Nat)
  | abandoned (script : String) (code : UInt16) (offset : Nat) (fault : Fault)
  | noResult (script : String)
  | refused (operation : String) (error : HostError)
  | effect (owner : Option Handle) (effect : HostEffect)
  | setProperty (object : Handle) (property : Property) (value : Value)
  | setMapVar (index : Int64) (value : Value)
  | setGlobalVar (index : Int64) (value : Value)
  | setExternal (name : String) (value : Value)
  | noMessages (table id : Int64)
  | crossCall (script : Int64) (procedure : String)

namespace Event

def nat (n : Nat) : FieldText := .shown (toString n)

def int (n : Int64) : FieldText := .shown (toString n.toInt)

def level : Event → Level
  | .abandoned .. => .error
  | .noResult _ => .warn
  | .effect .. | .setProperty .. | .setMapVar .. | .setGlobalVar .. | .setExternal ..
  | .crossCall .. => .info
  | .executing .. => .trace
  | _ => .debug

def effectContent (owner : Option Handle) (e : HostEffect) : String × List (String × FieldText) :=
  let owner := ("owner", .shown (owner.getD .nothing).text)
  match e with
  | .playMovie movie => ("Play movie", [owner, ("movie", int movie)])
  | .playSound sound => ("Play sound", [owner, ("sound", .shown sound)])
  | .displayMessage text => (text, [owner])
  | .giveExperience points => ("Give experience", [owner, ("points", int points)])

def content : Event → String × List (String × FieldText)
  | .unexpectedSignature container signature =>
    ("Unexpected table signature",
      [("name", .own container), ("signature", nat signature.toNat)])
  | .decoded c =>
    ("Decoded script container",
      [("name", .own c.name), ("procedures", nat c.procedures.size),
        ("identifiers", nat c.identifiers.length), ("strings", nat c.strings.length),
        ("size", nat c.size)])
  | .initializing script => ("Initializing script", [("script", .own script)])
  | .noSuchProcedure script procedure =>
    ("No such procedure", [("script", .own script), ("procedure", .own procedure)])
  | .calling script procedure body =>
    ("Calling procedure",
      [("script", .own script), ("procedure", .own procedure), ("body", nat body)])
  | .entering procedure body =>
    ("Calling procedure", [("procedure", .shown procedure), ("body", nat body)])
  | .executing offset code =>
    ("Executing", [("offset", nat offset), ("opcode", .shown (wordText code))])
  | .halted script ticks => ("Script halted", [("script", .own script), ("ticks", nat ticks)])
  | .abandoned script code offset fault =>
    ("Script error; abandoning run",
      [("script", .own script), ("opcode", .shown (wordText code)), ("offset", nat offset),
        ("error", .shown fault.message)])
  | .noResult script =>
    ("No result value left on the data stack", [("script", .own script)])
  | .refused operation error =>
    ("Host lookup failed; using empty result",
      [("operation", .own operation), ("error", .shown error.message)])
  | .effect owner e => effectContent owner e
  | .setProperty object property value =>
    ("Set object property",
      [("obj", .shown object.text), ("property", .shown property.text),
        ("value", .shown value.detailed)])
  | .setMapVar index value =>
    ("Set map variable", [("index", int index), ("value", .shown value.detailed)])
  | .setGlobalVar index value =>
    ("Set global variable", [("index", int index), ("value", .shown value.detailed)])
  | .setExternal name value =>
    ("Set external variable", [("name", .own name), ("value", .shown value.detailed)])
  | .noMessages table id => ("No message tables loaded", [("table", int table), ("id", int id)])
  | .crossCall script procedure =>
    ("Cross-script call", [("script", int script), ("procedure", .own procedure)])

def record (e : Event) : LogRecord := ⟨e.level, e.content.1, e.content.2⟩

end Event

structure Log where
  threshold : Option Level := none
  records : Array LogRecord := #[]

namespace Log

def keeps (log : Log) (level : Level) : Bool :=
  match log.threshold with
  | some threshold => level.rank ≤ threshold.rank
  | none => false

def add (log : Log) (r : LogRecord) : Log :=
  if log.keeps r.level then { log with records := log.records.push r } else log

def note (log : Log) (e : Event) : Log :=
  if log.keeps e.level then log.add e.record else log

def noteAll (log : Log) (es : List Event) : Log := es.foldl note log

end Log

end ScriptMachine
