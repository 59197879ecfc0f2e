import ScriptMachine.Config.Basic
import ScriptMachine.Notation.Yaml
import ScriptMachine.Value.Handle

/-!
# Decoding limits and handles

A configuration is an object or a mapping of two fields, each of which may be missing;
unknown fields are passed over and repeated ones refused in JSON, where a list of the
fields in order will do as well. A handle is an object or a list of both its numbers.
-/

namespace ScriptMachine

open Notation (Json)

namespace Config

def ticksName : String := "max_ticks"
def localsName : String := "local_variable_count"

def ticksOf? : Json → Option (Option Nat)
  | .null => some none
  | j => (j.below? UInt64.size).map some

def withTicks? (c : Config) : Option Json → Option Config
  | none => some c
  | some j => (ticksOf? j).map fun maxTicks => { c with maxTicks }

def withLocals? (c : Config) : Option Json → Option Config
  | none => some c
  | some j => (j.below? UInt64.size).map fun localCount => { c with localCount }

def ofJson? : Json → Option Config
  | .object members => do
    let c ← withTicks? {} (← Json.member? members ticksName)
    withLocals? c (← Json.member? members localsName)
  | .list [] => some {}
  | .list [ticks] => withTicks? {} ticks
  | .list [ticks, locals] => do withLocals? (← withTicks? {} ticks) locals
  | _ => none

open Notation.Yaml (Scalar) in
/-- A field of a mapping; of a repeated key the last entry counts. -/
def entry? (entries : List (String × Scalar)) (key : String) : Option Scalar :=
  (entries.reverse.find? (·.1 = key)).map (·.2)

def ofYaml? (text : String) : Option Config := do
  let entries ← Notation.Yaml.mapping? text
  let maxTicks ← match entry? entries ticksName with
    | none | some .null => some none
    | some (.natural n) => if n < UInt64.size then some (some n) else none
    | some .other => none
  let localCount ← match entry? entries localsName with
    | none => some ({} : Config).localCount
    | some (.natural n) => if n < UInt64.size then some n else none
    | some _ => none
  return { maxTicks, localCount }

end Config

namespace Handle

def ofNumbers? (index generation : Json) : Option Handle := do
  return ⟨.ofNat (← index.below? UInt32.size), .ofNat (← generation.below? UInt32.size)⟩

def ofJson? : Json → Option Handle
  | .object members => do
    ofNumbers? (← ← Json.member? members "index") (← ← Json.member? members "generation")
  | .list [index, generation] => ofNumbers? index generation
  | _ => none

end Handle

end ScriptMachine
