import ScriptMachine.Config.Basic

/-!
# Arguments

The command takes the name of a script and options. An option takes its value from the
same word, behind an equals sign, or from the next word if that does not look like an
option. The value of an option is checked when the next option or the script's name is
reached, or at the end; a word that is not understood is reported before that.
-/

namespace ScriptMachine

inductive UsageError where
  | missingRequired
  | unknownArgument
  | valueMissing
  | valueInvalid
  | repeated
  | tooManyValues
  | help
deriving DecidableEq

def UsageError.message : UsageError → String
  | .missingRequired => "the name of a script is missing"
  | .unknownArgument => "there is an argument that is not understood"
  | .valueMissing => "an option has no value"
  | .valueInvalid => "the value of an option is not a number in range"
  | .repeated => "an option is given twice"
  | .tooManyValues => "an option that takes no value is given one"
  | .help => "scripts and options are given as words"

structure Args where
  script : String
  scriptDir : String := "."
  inspect : Bool := false
  calls : List String := []
  fixedParam : Int64 := 0
  maxTicks : Option Nat := none
  localCount : Option Nat := none
  configFile : Option String := none
  debug : Bool := false

inductive ValueOption where
  | scriptDir
  | call
  | fixedParam
  | maxTicks
  | localCount
  | configFile
deriving DecidableEq

inductive FlagOption where
  | inspect
  | debug
  | help
deriving DecidableEq

inductive OptionName where
  | value (o : ValueOption)
  | flag (o : FlagOption)
deriving DecidableEq

def OptionName.ofText? : String → Option OptionName
  | "script-dir" => some (.value .scriptDir)
  | "call" => some (.value .call)
  | "fixed-param" => some (.value .fixedParam)
  | "max-ticks" => some (.value .maxTicks)
  | "local-variable-count" => some (.value .localCount)
  | "config-file" => some (.value .configFile)
  | "inspect" => some (.flag .inspect)
  | "debug" => some (.flag .debug)
  | "help" => some (.flag .help)
  | _ => none

namespace Args

def digits? (cs : List Char) : Option Nat :=
  if cs.isEmpty || !cs.all Char.isDigit then none
  else some (cs.foldl (fun n d => 10 * n + (d.toNat - '0'.toNat)) 0)

def size? (text : String) : Option Nat := do
  let n ← match text.toList with
    | '+' :: rest => digits? rest
    | cs => digits? cs
  if n < UInt64.size then some n else none

def integer? (text : String) : Option Int64 := do
  let n : Int ← match text.toList with
    | '+' :: rest => (digits? rest).map Int.ofNat
    | '-' :: rest => (digits? rest).map fun n => -(n : Int)
    | cs => (digits? cs).map Int.ofNat
  if Int64.minValue.toInt ≤ n ∧ n ≤ Int64.maxValue.toInt then some (.ofInt n) else none

structure Reading where
  args : Args := { script := "" }
  script : Option String := none
  seen : List OptionName := []
  pending : Option (ValueOption × Option String) := none

def valid {α : Type} : Option α → Except UsageError α
  | some a => .ok a
  | none => .error .valueInvalid

def give (a : Args) (text : String) : ValueOption → Except UsageError Args
  | .scriptDir =>
    if text.isEmpty then .error .valueMissing else .ok { a with scriptDir := text }
  | .configFile =>
    if text.isEmpty then .error .valueMissing else .ok { a with configFile := some text }
  | .call => .ok { a with calls := a.calls ++ [text] }
  | .fixedParam => return { a with fixedParam := ← valid (integer? text) }
  | .maxTicks => return { a with maxTicks := some (← valid (size? text)) }
  | .localCount => return { a with localCount := some (← valid (size? text)) }

namespace Reading

/-- Notes that an option occurs. Only calls may be repeated. -/
def occur (r : Reading) (name : OptionName) : Except UsageError Reading :=
  if r.seen.contains name && name ≠ .value .call then .error .repeated
  else .ok { r with seen := name :: r.seen }

def resolve (r : Reading) : Except UsageError Reading :=
  match r.pending with
  | none => .ok r
  | some (_, none) => .error .valueMissing
  | some (o, some text) => do
    let r ← r.occur (.value o)
    return { r with args := ← r.args.give text o, pending := none }

def flag (r : Reading) (o : FlagOption) : Except UsageError Reading := do
  let r ← r.resolve
  match o with
  | .help => .error .help
  | .inspect =>
    let r ← r.occur (.flag o)
    return { r with args := { r.args with inspect := true } }
  | .debug =>
    let r ← r.occur (.flag o)
    return { r with args := { r.args with debug := true } }

def longOption (r : Reading) (name : String) (value : Option String) :
    Except UsageError Reading :=
  match OptionName.ofText? name, value with
  | none, _ => .error .unknownArgument
  | some (.flag _), some _ => .error .tooManyValues
  | some (.flag o), none => r.flag o
  | some (.value o), some _ => do
    let r ← r.resolve
    ({ r with pending := some (o, value) } : Reading).resolve
  | some (.value o), none => do
    let r ← r.resolve
    return { r with pending := some (o, none) }

def positional (r : Reading) (word : String) : Except UsageError Reading :=
  if r.script.isSome then .error .unknownArgument
  else do
    let r ← r.resolve
    return { r with script := some word }

def word (r : Reading) (w : String) : Except UsageError Reading :=
  match r.pending with
  | some (o, none) => .ok { r with pending := some (o, some w) }
  | _ => r.positional w

def finish (r : Reading) : Except UsageError Args := do
  let r ← r.resolve
  match r.script with
  | some script => return { r.args with script }
  | none => .error .missingRequired

end Reading

def splitEquals (cs : List Char) : String × Option String :=
  let name := String.ofList (cs.takeWhile (· ≠ '='))
  match cs.dropWhile (· ≠ '=') with
  | _ :: value => (name, some (.ofList value))
  | [] => (name, none)

def readWords (r : Reading) : List String → Except UsageError Args
  | [] => r.finish
  | w :: rest =>
    match w.toList with
    | ['-', '-'] => do
      let r ← rest.foldlM Reading.positional r
      r.finish
    | '-' :: '-' :: cs => do
      let (name, value) := splitEquals cs
      readWords (← r.longOption name value) rest
    | '-' :: 'h' :: _ => do readWords (← r.flag .help) rest
    | '-' :: _ :: _ => .error .unknownArgument
    | _ => do readWords (← r.word w) rest

def parse (words : List String) : Except UsageError Args := readWords {} words

def applyLimits (a : Args) (c : Config) : Option Config :=
  if a.localCount = some 0 then none
  else some
    { maxTicks := a.maxTicks <|> c.maxTicks
      localCount := a.localCount.getD c.localCount }

end Args

end ScriptMachine
