import ScriptMachine.Text.Unprintable

/-!
# Quoted text

Text between double quotes, with a backslash before quotes and backslashes, short forms
for tab, line feed, carriage return and the null character, and the code point in braces
for every other character that has no glyph of its own.
-/

namespace ScriptMachine.Text

def hex (n : Nat) : String := .ofList (Nat.toDigits 16 n)

def escape (c : Char) : String :=
  match c with
  | '\x00' => "\\0"
  | '\t' => "\\t"
  | '\n' => "\\n"
  | '\r' => "\\r"
  | '"' => "\\\""
  | '\\' => "\\\\"
  | c => if isUnprintable c then "\\u\x7b" ++ hex c.toNat ++ "\x7d" else c.toString

def quoted (s : String) : String :=
  "\"" ++ s.toList.foldl (fun t c => t ++ escape c) "" ++ "\""

end ScriptMachine.Text
