/-!
# Opcodes

The instruction set and its numbering. Every instruction is a word of two bytes; the
three literal pushes are followed by an operand of four bytes.
-/

namespace ScriptMachine

inductive Opcode where
  | noop | criticalStart | criticalDone | jump | call | returnToData | dataToReturn | exitProg
  | fetchGlobal | storeGlobal | fetchExternal | storeExternal | exportVar | swap | pop | dup
  | ret | exit | checkArgCount | lookupStringProc | popBase | popToBase | pushBase | setGlobal
  | jumpUnless | loopUnless | store | fetch | eq | ne | le | ge | lt | gt | add | sub | mul | div
  | modulus | and | or | bitAnd | bitOr | bitXor | bitNot | floor | not | negate | concat
  | giveExpPoints | playSfx | objName | random | displayMsg | scriptOverrides | selfObj
  | sourceObj | targetObj | dudeObj | localVar | setLocalVar | mapVar | setMapVar | globalVar
  | setGlobalVar | objType | getCritterStat | setCritterStat | fixedParam | messageStr
  | messageSpeech | usedSkill | playMovie | callScriptProcedure | pushString | pushFloat
  | pushInt
deriving DecidableEq

namespace Opcode

def entry : Opcode → UInt16 × String
  | .noop => (0x8000, "Noop")
  | .criticalStart => (0x8002, "CriticalStart")
  | .criticalDone => (0x8003, "CriticalDone")
  | .jump => (0x8004, "Jump")
  | .call => (0x8005, "Call")
  | .returnToData => (0x800C, "ReturnToData")
  | .dataToReturn => (0x800D, "DataToReturn")
  | .exitProg => (0x8010, "ExitProg")
  | .fetchGlobal => (0x8012, "FetchGlobal")
  | .storeGlobal => (0x8013, "StoreGlobal")
  | .fetchExternal => (0x8014, "FetchExternal")
  | .storeExternal => (0x8015, "StoreExternal")
  | .exportVar => (0x8016, "ExportVar")
  | .swap => (0x8018, "Swap")
  | .pop => (0x801A, "Pop")
  | .dup => (0x801B, "Dup")
  | .ret => (0x801C, "Return")
  | .exit => (0x801D, "Exit")
  | .checkArgCount => (0x8027, "CheckArgCount")
  | .lookupStringProc => (0x8028, "LookupStringProc")
  | .popBase => (0x8029, "PopBase")
  | .popToBase => (0x802A, "PopToBase")
  | .pushBase => (0x802B, "PushBase")
  | .setGlobal => (0x802C, "SetGlobal")
  | .jumpUnless => (0x802F, "If")
  | .loopUnless => (0x8030, "While")
  | .store => (0x8031, "Store")
  | .fetch => (0x8032, "Fetch")
  | .eq => (0x8033, "Eq")
  | .ne => (0x8034, "Ne")
  | .le => (0x8035, "Le")
  | .ge => (0x8036, "Ge")
  | .lt => (0x8037, "Lt")
  | .gt => (0x8038, "Gt")
  | .add => (0x8039, "Add")
  | .sub => (0x803A, "Sub")
  | .mul => (0x803B, "Mul")
  | .div => (0x803C, "Div")
  | .modulus => (0x803D, "Mod")
  | .and => (0x803E, "And")
  | .or => (0x803F, "Or")
  | .bitAnd => (0x8040, "BitAnd")
  | .bitOr => (0x8041, "BitOr")
  | .bitXor => (0x8042, "BitXor")
  | .bitNot => (0x8043, "BitNot")
  | .floor => (0x8044, "Floor")
  | .not => (0x8045, "Not")
  | .negate => (0x8046, "Negate")
  | .concat => (0x8047, "Concat")
  | .giveExpPoints => (0x80A1, "GiveExpPoints")
  | .playSfx => (0x80A3, "PlaySfx")
  | .objName => (0x80A4, "ObjName")
  | .random => (0x80B4, "Random")
  | .displayMsg => (0x80B8, "DisplayMsg")
  | .scriptOverrides => (0x80B9, "ScriptOverrides")
  | .selfObj => (0x80BC, "SelfObj")
  | .sourceObj => (0x80BD, "SourceObj")
  | .targetObj => (0x80BE, "TargetObj")
  | .dudeObj => (0x80BF, "DudeObj")
  | .localVar => (0x80C1, "LocalVar")
  | .setLocalVar => (0x80C2, "SetLocalVar")
  | .mapVar => (0x80C3, "MapVar")
  | .setMapVar => (0x80C4, "SetMapVar")
  | .globalVar => (0x80C5, "GlobalVar")
  | .setGlobalVar => (0x80C6, "SetGlobalVar")
  | .objType => (0x80C8, "ObjType")
  | .getCritterStat => (0x80CA, "GetCritterStat")
  | .setCritterStat => (0x80CB, "SetCritterStat")
  | .fixedParam => (0x80F6, "FixedParam")
  | .messageStr => (0x8105, "MessageStr")
  | .messageSpeech => (0x8106, "MessageSpeech")
  | .usedSkill => (0x8110, "UsedSkill")
  | .playMovie => (0x8115, "PlayMovie")
  | .callScriptProcedure => (0x8120, "CallScriptProcedure")
  | .pushString => (0x9001, "PushString")
  | .pushFloat => (0xA001, "PushFloat")
  | .pushInt => (0xC001, "PushInt")

def code (op : Opcode) : UInt16 := op.entry.1

def name (op : Opcode) : String := op.entry.2

def all : List Opcode := [
  .noop, .criticalStart, .criticalDone, .jump, .call, .returnToData, .dataToReturn, .exitProg,
  .fetchGlobal, .storeGlobal, .fetchExternal, .storeExternal, .exportVar, .swap, .pop, .dup,
  .ret, .exit, .checkArgCount, .lookupStringProc, .popBase, .popToBase, .pushBase, .setGlobal,
  .jumpUnless, .loopUnless, .store, .fetch, .eq, .ne, .le, .ge, .lt, .gt, .add, .sub, .mul, .div,
  .modulus, .and, .or, .bitAnd, .bitOr, .bitXor, .bitNot, .floor, .not, .negate, .concat,
  .giveExpPoints, .playSfx, .objName, .random, .displayMsg, .scriptOverrides, .selfObj,
  .sourceObj, .targetObj, .dudeObj, .localVar, .setLocalVar, .mapVar, .setMapVar, .globalVar,
  .setGlobalVar, .objType, .getCritterStat, .setCritterStat, .fixedParam, .messageStr,
  .messageSpeech, .usedSkill, .playMovie, .callScriptProcedure, .pushString, .pushFloat,
  .pushInt]

def ofCode? (n : UInt16) : Option Opcode := all.find? (·.code = n)

def ofName? (s : String) : Option Opcode := all.find? (·.name = s)

def operandSize : Opcode → Nat
  | .pushString | .pushFloat | .pushInt => 4
  | _ => 0

/-- Whether the opcode takes its name operand from the identifiers of a script. -/
def namesVariable : Opcode → Bool
  | .fetchExternal | .storeExternal | .exportVar => true
  | _ => false

theorem mem_all (op : Opcode) : op ∈ all := by cases op <;> decide

theorem ofCode?_code (op : Opcode) : ofCode? op.code = some op := by cases op <;> rfl

theorem code_of_ofCode? {n : UInt16} {op : Opcode} (h : ofCode? n = some op) : op.code = n := by
  simpa using List.find?_some h

end Opcode

end ScriptMachine
