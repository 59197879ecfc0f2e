import ScriptMachine.Container.Basic

/-!
# Decoding containers

A file consists of startup code, procedure records, the identifier table, a signature
and the string table, which may be absent; the rest belongs to the procedures. Decoding
fails at the first defect in reading order, and resolves names and offsets only after
all tables have been read. Table text is Latin-1 without its null padding.
-/

namespace ScriptMachine

def headerSize : Nat := 42

def recordSize : Nat := 24

def signature : UInt32 := 0xFFFFFFFF

def absent : UInt32 := 0xFFFFFFFF

inductive TableName where
  | identifier
  | string
deriving DecidableEq

def TableName.text : TableName → String
  | .identifier => "identifier"
  | .string => "string"

inductive EntryPoint where
  | body
  | condition
deriving DecidableEq

def EntryPoint.text : EntryPoint → String
  | .body => "body"
  | .condition => "condition"

inductive DecodeError where
  | truncated (read : OutOfBounds)
  | unresolvedName (procedure : Nat) (offset : UInt32)
  | tableSize (table : TableName) (declared : UInt32) (available : Nat)
  | outside (procedure : String) (point : EntryPoint) (offset : UInt32) (size : Nat)
deriving DecidableEq

def DecodeError.message : DecodeError → String
  | .truncated read => "truncated container: " ++ read.message
  | .unresolvedName procedure offset =>
    "procedure #" ++ toString procedure ++ " refers to identifier offset " ++
      toString offset.toNat ++ ", which is not in the identifier table"
  | .tableSize table declared available =>
    table.text ++ " table declares " ++ toString declared.toNat ++
      " bytes, which does not fit the " ++ toString available ++ " bytes available"
  | .outside procedure point offset size =>
    "procedure `" ++ procedure ++ "` has " ++ point.text ++ " offset " ++
      toString offset.toNat ++ " outside the code segment (" ++ toString size ++ " bytes)"

namespace Container

def latin1 (bytes : List UInt8) : String :=
  .ofList ((bytes.filter (· ≠ 0)).map fun b => .ofNat b.toNat)

/-- Splits the bytes of a table into entries, the first of which has the given offset.
Fails with the count of bytes an entry had left. -/
def entries (offset : Nat) : List UInt8 → Except Nat (List TableEntry)
  | [] => .ok []
  | [_] => .error 1
  | high :: low :: rest =>
    let length := ofBigEndian [high, low]
    if length ≤ rest.length then do
      let tail ← entries (offset + length + 2) (rest.drop length)
      .ok (⟨.ofNat offset, latin1 (rest.take length)⟩ :: tail)
    else .error rest.length
termination_by bytes => bytes.length
decreasing_by
  simp only [List.length_drop, List.length_cons]
  omega

/-- Bytes from a table's size field to the first character of its first entry. -/
def firstOffset : Nat := 6

abbrev Decoding := StateT Reader (Except DecodeError)

def read {α : Type} (work : Reader.Work α) : Decoding α := fun r =>
  match work r with
  | .ok a r => .ok (a, r)
  | .error e _ => .error (.truncated e)

structure Record where
  nameOffset : UInt32
  flags : UInt32
  delay : UInt32
  condition : UInt32
  body : UInt32
  argumentCount : UInt32
deriving DecidableEq

def Record.ofBytes (bytes : List UInt8) : Record :=
  let field (i : Nat) : UInt32 := .ofNat (ofBigEndian ((bytes.drop (4 * i)).take 4))
  ⟨field 0, field 1, field 2, field 3, field 4, field 5⟩

def records : Nat → Decoding (List Record)
  | 0 => pure []
  | count + 1 => do
    let record := Record.ofBytes (← read (Reader.take recordSize))
    return record :: (← records count)

def table (name : TableName) (size : UInt32) : Decoding (List TableEntry) := do
  let available := (← get).remaining
  if available < size.toNat then throw (.tableSize name size available)
  match entries firstOffset (← read (Reader.take size.toNat)) with
  | .ok list => return list
  | .error available => throw (.tableSize name size available)

structure Head where
  records : List Record
  identifiers : List TableEntry
  signature : UInt32

def head : Decoding Head := do
  read (Reader.seek headerSize)
  let count ← read Reader.uint32
  let records ← records count.toNat
  let identifiers ← table .identifier (← read Reader.uint32)
  return ⟨records, identifiers, ← read Reader.uint32⟩

def stringTable : Decoding (List TableEntry) := do
  let size ← read Reader.uint32
  if size = absent then return [] else table .string size

/-- A record as a procedure of a file of the given size: its name is resolved first, then
the body's offset is checked, then the condition's. -/
def resolve (identifiers : List TableEntry) (size index : Nat) (r : Record) :
    Except DecodeError Procedure :=
  match entryText? identifiers r.nameOffset with
  | none => .error (.unresolvedName index r.nameOffset)
  | some name =>
    if size ≤ r.body.toNat then .error (.outside name .body r.body size)
    else if size ≤ r.condition.toNat then .error (.outside name .condition r.condition size)
    else .ok ⟨name, ⟨r.flags⟩, r.delay, r.condition, r.body, r.argumentCount⟩

def resolveAll (identifiers : List TableEntry) (size : Nat) :
    Nat → List Record → Except DecodeError (List Procedure)
  | _, [] => .ok []
  | index, r :: rest => do
    let p ← resolve identifiers size index r
    return p :: (← resolveAll identifiers size (index + 1) rest)

def decode (name : String) (bytes : Array UInt8) : Except DecodeError Container := do
  let (head, r) ← head.run (.ofBytes bytes)
  let (strings, _) ← stringTable.run r
  let procedures ← resolveAll head.identifiers bytes.size 0 head.records
  return ⟨name, bytes, procedures.toArray, head.identifiers, strings⟩

end Container

end ScriptMachine
