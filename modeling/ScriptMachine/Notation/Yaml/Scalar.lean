import ScriptMachine.Float64.Fixed
import ScriptMachine.Notation.Json

/-!
# What scalars stand for

Plain words may be null, a truth value or a number, and a tag of the standard ones demands
one of these. Null and the natural numbers are told apart from everything else. Integers
have at most 128 bits.
-/

namespace ScriptMachine.Notation.Yaml

inductive Scalar where
  | null
  | natural (n : Nat)
  | other
deriving DecidableEq

namespace Scalar

def isNull (word : String) : Bool := ["~", "null", "Null", "NULL"].contains word

def isTruthValue (word : String) : Bool :=
  ["true", "True", "TRUE", "false", "False", "FALSE"].contains word

def ofDigits? (base : Nat) (digits : List Char) : Option Nat := do
  if digits.isEmpty then none
  let values ← digits.mapM Json.hexDigit?
  if values.all (· < base) then some (values.foldl (base * · + ·) 0) else none

/-- A number without a sign. A leading zero makes decimal digits a text. -/
def magnitude? : List Char → Option Nat
  | '0' :: 'x' :: rest => ofDigits? 16 rest
  | '0' :: 'o' :: rest => ofDigits? 8 rest
  | '0' :: 'b' :: rest => ofDigits? 2 rest
  | '0' :: _ :: _ => none
  | digits => ofDigits? 10 digits

def integer? (word : String) : Option Int :=
  let bound : Nat := 1 <<< 127
  match word.toList with
  | '-' :: digits => do
    let n ← magnitude? digits
    if n ≤ bound then some (-n) else none
  | '+' :: digits | digits => do
    let n ← magnitude? digits
    if n < 2 * bound then some n else none

/-- Whether the digits times a power of ten round to a finite number of 64 bits. The bound
lies in the middle between the greatest of them and the next power of two. -/
def isFinite (digits : Nat) (exponent : Int) : Bool :=
  let length := (Nat.toDigits 10 digits).length
  let bound : Nat := (1 <<< 1024) - (1 <<< 970)
  digits = 0 || exponent + length ≤ 308 ||
    (exponent + length ≤ 309 &&
      digits * Float64.powerOfTen exponent.toNat < bound * Float64.powerOfTen (-exponent).toNat)

def exponent? (cs : List Char) : Option Int :=
  match cs with
  | [] => some 0
  | e :: rest =>
    if e ≠ 'e' && e ≠ 'E' then none
    else match rest with
      | '-' :: digits => (ofDigits? 10 digits).map fun n => -n
      | '+' :: digits | digits => (ofDigits? 10 digits).map fun n => n

def isFloat (word : String) : Bool :=
  let unsigned := match word.toList with
    | '-' :: rest | '+' :: rest | rest => rest
  let whole := unsigned.takeWhile Char.isDigit
  let (fraction, rest) := match unsigned.drop whole.length with
    | '.' :: rest => (rest.takeWhile Char.isDigit, rest.dropWhile Char.isDigit)
    | rest => ([], rest)
  let digits := whole ++ fraction
  let finite := ! digits.isEmpty && (exponent? rest).any fun e =>
    isFinite (Json.digitsValue digits) (e - fraction.length)
  let isWord (words : List String) := words.contains (String.ofList unsigned)
  finite || isWord [".inf", ".Inf", ".INF"] || [".nan", ".NaN", ".NAN"].contains word

def ofInteger (n : Int) : Scalar := if 0 ≤ n then .natural n.toNat else .other

def ofPlain (word : String) : Scalar :=
  if word = "" || isNull word then .null
  else if isTruthValue word then .other
  else (integer? word).elim .other ofInteger

def ofTagged? (tag : Option String) (text : String) (plain : Bool) : Option Scalar :=
  match tag with
  | none => some (if plain then ofPlain text else .other)
  | some "tag:yaml.org,2002:null" => if isNull text then some .null else none
  | some "tag:yaml.org,2002:bool" => if isTruthValue text then some .other else none
  | some "tag:yaml.org,2002:int" => (integer? text).map ofInteger
  | some "tag:yaml.org,2002:float" => if isFloat text then some .other else none
  | some _ => some .other

end Scalar

end ScriptMachine.Notation.Yaml
