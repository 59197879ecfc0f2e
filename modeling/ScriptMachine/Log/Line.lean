import ScriptMachine.Log.Event

/-!
# Log lines

A record as a line of text: the level, the message and the fields. Field values that are
text are quoted. Control characters that steer a terminal are spelled out in messages.
-/

namespace ScriptMachine

namespace LogRecord

def harmless (c : Char) : String :=
  if ['\x07', '\x08', '\x0c', '\x1b', '\x7f'].contains c then
    "\\x" ++ (if c.toNat < 16 then "0" else "") ++ Text.hex c.toNat
  else if 0x80 ≤ c.toNat && c.toNat < 0xA0 then "\\u\x7b" ++ Text.hex c.toNat ++ "\x7d"
  else c.toString

def fieldLine : String × FieldText → String
  | (name, .own text) => name ++ "=" ++ Text.quoted text
  | (name, .shown text) => name ++ "=" ++ text

def line (r : LogRecord) : String :=
  let message := r.message.toList.foldl (fun t c => t ++ harmless c) ""
  " ".intercalate (r.level.name :: message :: r.fields.map fieldLine)

end LogRecord

end ScriptMachine
