import ScriptMachine.Float64.Fixed

/-!
# The fewest digits that read back

A double stands for every real that rounds to it. Of the decimals in that interval the
printed one has the fewest digits, and among those it is the nearest to the double; of
two equally near ones it is the greater. Only the two neighbours of the double on each
decimal grid can qualify, so the search looks at grids of one digit, two digits and so
on. Magnitudes from `0.0001` up to `10 ^ 16` are written positionally.
-/

namespace ScriptMachine.Float64

structure Decimal where
  digits : Nat
  exponent : Int
deriving DecidableEq

structure Interval where
  numerator : Nat
  denominator : Nat
  -- The distances to the ends, over the same denominator.
  below : Nat
  above : Nat
  closed : Bool

/-- The interval of a positive number. The ends belong to it when the significand is
even. Below a power of two the doubles lie twice as dense. -/
def Parts.interval (p : Parts) : Interval :=
  let scale := 1 <<< (p.exponent - 2).toNat
  let narrow := p.significand = 1 <<< fractionBits ∧ leastExponent < p.exponent
  { numerator := 4 * p.significand * scale
    denominator := 1 <<< (2 - p.exponent).toNat
    below := (if narrow then 1 else 2) * scale
    above := 2 * scale
    closed := p.significand % 2 = 0 }

namespace Interval

def holds (i : Interval) (a b : Nat) : Bool :=
  let x := a * i.denominator
  let lo := (i.numerator - i.below) * b
  let hi := (i.numerator + i.above) * b
  if i.closed then lo ≤ x && x ≤ hi else lo < x && x < hi

def nearest? (i : Interval) (e : Int) : Option Decimal :=
  let up := powerOfTen e.toNat
  let down := powerOfTen (-e).toNat
  let unit := i.denominator * up
  let n := i.numerator * down
  let q := n / unit
  let low := i.holds (q * up) down
  let high := i.holds ((q + 1) * up) down
  if low && (!high || decide (2 * (n % unit) < unit)) then some ⟨q, e⟩
  else if high then some ⟨q + 1, e⟩
  else none

def leading (i : Interval) : Int :=
  let estimate : Int := (Nat.toDigits 10 (i.numerator / i.denominator)).length - 1
  if i.denominator ≤ i.numerator then estimate
  else
    let reciprocal := i.denominator / i.numerator
    let zeros : Nat := (Nat.toDigits 10 reciprocal).length
    if i.numerator * powerOfTen (zeros - 1) = i.denominator then 1 - (zeros : Int) else -(zeros : Int)

def search (i : Interval) : Nat → Int → Decimal
  | 0, e => ⟨i.numerator * powerOfTen (-e).toNat / (i.denominator * powerOfTen e.toNat), e⟩
  | fuel + 1, e => (i.nearest? e).getD (i.search fuel (e - 1))

/-- Seventeen digits always suffice. -/
def shortest (i : Interval) : Decimal := i.search 17 i.leading

end Interval

namespace Decimal

def trimmed : Nat → Decimal → Decimal
  | 0, d => d
  | fuel + 1, d =>
    if d.digits ≠ 0 ∧ d.digits % 10 = 0 then trimmed fuel ⟨d.digits / 10, d.exponent + 1⟩ else d

def trim (d : Decimal) : Decimal := trimmed 20 d

def positional (d : Decimal) : String :=
  if 0 ≤ d.exponent then toString (d.digits * powerOfTen d.exponent.toNat) ++ ".0"
  else
    let places := (-d.exponent).toNat
    toString (d.digits / powerOfTen places) ++ "." ++
      padded places (d.digits % powerOfTen places)

def scientific (d : Decimal) : String :=
  match (toString d.digits).toList with
  | [] => ""
  | c :: rest =>
    let point := if rest.isEmpty then "" else "."
    String.ofList (c :: point.toList ++ rest) ++ "e" ++ toString (d.exponent + rest.length)

end Decimal

def shortest (x : Double) : String :=
  match shape x with
  | .nan => "NaN"
  | .infinite negative => signText negative ++ "inf"
  | .finite p =>
    signText p.negative ++
      if p.significand = 0 then "0.0"
      else
        let d := p.interval.shortest.trim
        let top := d.exponent + (Nat.toDigits 10 d.digits).length
        if -4 < top ∧ top ≤ 16 then d.positional else d.scientific

end ScriptMachine.Float64
