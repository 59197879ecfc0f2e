import ScriptMachine.Code.Reader
import ScriptMachine.Container.Flags

/-!
# Containers

A container is a compiled script: its whole file serves as code, and tables in it list
the procedures, the identifiers and the strings. An entry of a table is known by the
offset of its first character, counted from the table's size field.
-/

namespace ScriptMachine

structure Procedure where
  name : String
  flags : Flags
  delay : UInt32
  condition : UInt32
  body : UInt32
  argumentCount : UInt32
deriving DecidableEq

structure TableEntry where
  offset : UInt32
  text : String
deriving DecidableEq

structure Container where
  name : String
  code : Array UInt8
  procedures : Array Procedure
  identifiers : List TableEntry
  strings : List TableEntry
deriving DecidableEq

def entryText? (table : List TableEntry) (offset : UInt32) : Option String :=
  (table.find? (·.offset = offset)).map (·.text)

namespace Container

def size (c : Container) : Nat := c.code.size

def procedure? (c : Container) (name : String) : Option Procedure :=
  c.procedures.find? (·.name = name)

def index? (c : Container) (name : String) : Option Nat :=
  c.procedures.findIdx? (·.name = name)

def procedureAt? (c : Container) (index : Nat) : Option Procedure := c.procedures[index]?

def hasProcedure (c : Container) (name : String) : Bool := (c.procedure? name).isSome

def identifier? (c : Container) : UInt32 → Option String := entryText? c.identifiers

def string? (c : Container) : UInt32 → Option String := entryText? c.strings

end Container

end ScriptMachine
