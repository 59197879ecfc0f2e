import ScriptMachine.Container.Basic
import ScriptMachine.Text.Quoted

/-!
# Listing a script

What a container holds, line by line: its procedures, its identifiers and its strings.
-/

namespace ScriptMachine

namespace Container

def alignRight (width : Nat) (s : String) : String :=
  String.ofList (List.replicate (width - s.length) ' ') ++ s

def alignLeft (width : Nat) (s : String) : String :=
  s ++ String.ofList (List.replicate (width - s.length) ' ')

def offsetText (n : UInt32) : String := "0x" ++ Text.hex n.toNat

def procedureLine (index : Nat) (p : Procedure) : String :=
  " ".intercalate
    ["  " ++ alignRight 3 (toString index), alignLeft 32 p.name,
      "args=" ++ toString p.argumentCount.toNat, "flags=" ++ p.flags.text,
      "delay=" ++ toString p.delay.toNat, "body=" ++ offsetText p.body,
      "condition=" ++ offsetText p.condition]

def entryLine (view : String → String) (e : TableEntry) : String :=
  "  " ++ alignRight 6 (toString e.offset.toNat) ++ " " ++ view e.text

def listing (c : Container) : List String :=
  [c.name ++ " (" ++ toString c.size ++ " bytes)", "", "Procedures:"] ++
    c.procedures.toList.mapIdx procedureLine ++
    ["", "Identifiers:"] ++ c.identifiers.map (entryLine id) ++
    ["", "Strings:"] ++ c.strings.map (entryLine Text.quoted)

end Container

end ScriptMachine
