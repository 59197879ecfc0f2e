import ScriptMachine.Float64.Parts

/-!
# Numbers with a fixed count of decimal places

The exact value is scaled to a whole count of units of the last place and rounded
once; a half goes to the even neighbour. The sign is kept even where every digit is zero.
-/

namespace ScriptMachine.Float64

def powerOfTen (n : Nat) : Nat := Nat.pow 10 n

def roundDiv (n d : Nat) : Nat :=
  let q := n / d
  let r := n % d
  if 2 * r < d then q
  else if d < 2 * r then q + 1
  else q + q % 2

def Parts.units (p : Parts) (places : Nat) : Nat :=
  let n := p.significand * powerOfTen places
  if 0 ≤ p.exponent then n <<< p.exponent.toNat else roundDiv n (1 <<< (-p.exponent).toNat)

def padded (width n : Nat) : String :=
  let digits := Nat.toDigits 10 n
  String.ofList (List.replicate (width - digits.length) '0' ++ digits)

def signText (negative : Bool) : String := if negative then "-" else ""

/-- Not-a-number is `NaN` and the infinities are `inf` and `-inf` in every format. -/
def fixed (places : Nat) (x : Double) : String :=
  match shape x with
  | .nan => "NaN"
  | .infinite negative => signText negative ++ "inf"
  | .finite p =>
    let n := p.units places
    signText p.negative ++ toString (n / powerOfTen places) ++ "." ++
      padded places (n % powerOfTen places)

end ScriptMachine.Float64
