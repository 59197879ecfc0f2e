import ScriptMachine.Code.Assembly
import ScriptMachine.Container.Decode

/-!
# Building containers

A draft collects procedures and interned texts and is laid out as a file: startup code,
records, tables, then the blocks of the procedures in order. A procedure may ask for a
fixed place instead, where its body is written over whatever is there.
-/

namespace ScriptMachine

structure Pool where
  entries : Array (Nat × String) := #[]
  size : Nat := 0

namespace Pool

/-- Bytes of a text with its terminating null, rounded up to an even count. -/
def padded (text : String) : Nat := (text.utf8ByteSize + 2) / 2 * 2

def offset? (p : Pool) (text : String) : Option Nat :=
  (p.entries.find? (·.2 = text)).map (·.1)

def intern (p : Pool) (text : String) : Nat × Pool :=
  match p.offset? text with
  | some offset => (offset, p)
  | none =>
    let offset := p.size + Container.firstOffset
    (offset, ⟨p.entries.push (offset, text), p.size + 2 + padded text⟩)

def encodeEntry (text : String) : List UInt8 :=
  bigEndian 2 (padded text) ++ text.toUTF8.data.toList ++
    List.replicate (padded text - text.utf8ByteSize) 0

def encode (p : Pool) : List UInt8 :=
  bigEndian 4 p.size ++ p.entries.toList.flatMap (encodeEntry ·.2)

end Pool

structure ProcedureDraft where
  name : String
  body : Block := {}
  condition : Option Block := none
  flags : Flags := ⟨0⟩
  delay : UInt32 := 0
  argumentCount : UInt32 := 0
  place : Option Nat := none

structure Placement where
  body : Nat
  condition : Nat
deriving DecidableEq

structure Draft where
  header : Option (List UInt8) := none
  procedures : Array ProcedureDraft := #[]
  identifiers : Pool := {}
  strings : Pool := {}
  withoutStrings : Bool := false

namespace Draft

def identifier (d : Draft) (name : String) : Nat × Draft :=
  let (offset, pool) := d.identifiers.intern name
  (offset, { d with identifiers := pool })

def string (d : Draft) (text : String) : Nat × Draft :=
  let (offset, pool) := d.strings.intern text
  (offset, { d with strings := pool })

def procedure (d : Draft) (p : ProcedureDraft) : Nat × Draft :=
  let d := (d.identifier p.name).2
  (d.procedures.size, { d with procedures := d.procedures.push p })

def startName : String := "start"

def defaultHeader (d : Draft) : List UInt8 :=
  let block := ({} : Block).emit (.int 0)
  let block := match d.procedures.findIdx? (·.name = startName) with
    | some index => (block.emit (.int (.ofNat index))).op .call
    | none => block
  (block.op .exitProg).assemble 0

/-- A header of exactly the right size: cut off, or filled up with idle instructions and
at last with a null byte. -/
def sizedHeader (header : List UInt8) : List UInt8 :=
  let kept := header.take headerSize
  let missing := headerSize - kept.length
  let idle := List.replicate (missing / 2) (bigEndian 2 Opcode.noop.code.toNat)
  kept ++ idle.flatten ++ List.replicate (missing % 2) 0

def tablesEnd (d : Draft) : Nat :=
  headerSize + 4 + recordSize * d.procedures.size + 4 + d.identifiers.size + 4 +
    (if d.withoutStrings then 4 else 4 + d.strings.size)

def place (cursor : Nat) : List ProcedureDraft → List Placement
  | [] => []
  | p :: rest =>
    let (body, cursor) := match p.place with
      | some place => (place, cursor)
      | none => (cursor, cursor + p.body.size)
    let (condition, cursor) := match p.condition with
      | some block => (cursor, cursor + block.size)
      | none => (0, cursor)
    ⟨body, condition⟩ :: place cursor rest

def placements (d : Draft) : List Placement :=
  place d.tablesEnd d.procedures.toList

def encodeRecord (d : Draft) (p : ProcedureDraft) (place : Placement) : List UInt8 :=
  [(d.identifiers.offset? p.name).getD 0, p.flags.bits.toNat, p.delay.toNat,
    place.condition, place.body, p.argumentCount.toNat].flatMap (bigEndian 4)

def front (d : Draft) : List UInt8 :=
  sizedHeader (d.header.getD d.defaultHeader) ++
    bigEndian 4 d.procedures.size ++
    (d.procedures.toList.zip d.placements).flatMap (fun (p, place) => d.encodeRecord p place) ++
    d.identifiers.encode ++
    bigEndian 4 signature.toNat ++
    (if d.withoutStrings then bigEndian 4 absent.toNat else d.strings.encode)

def overlay (file : List UInt8) (offset : Nat) (code : List UInt8) : List UInt8 :=
  (file ++ List.replicate (offset + code.length - file.length) 0).take offset ++ code ++
    file.drop (offset + code.length)

def writeBlocks (file : List UInt8) (p : ProcedureDraft) (place : Placement) : List UInt8 :=
  let file := overlay file place.body (p.body.assemble (.ofNat place.body))
  match p.condition with
  | some block => overlay file place.condition (block.assemble (.ofNat place.condition))
  | none => file

def build (d : Draft) : List UInt8 :=
  (d.procedures.toList.zip d.placements).foldl (fun file (p, place) => writeBlocks file p place)
    d.front

end Draft

end ScriptMachine
