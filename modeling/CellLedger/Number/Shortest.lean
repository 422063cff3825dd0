import CellLedger.Number

/-!
The shortest decimal of a number: of the decimals that read back as the number, those with the
fewest digits, and of these the nearest.
-/

set_option autoImplicit false

namespace CellLedger

/-- The decimal with these digits as an integer, times ten to the exponent. -/
structure Decimal where
  digits : List Char
  exponent : Int
  deriving DecidableEq, Repr

/-- Which of two equally near decimals is taken. -/
inductive Tie where
  | up
  | even
  deriving DecidableEq, Repr

namespace Decimal

def ofCoefficient (coefficient : Nat) (exponent : Int) : Decimal :=
  let digits := Nat.toDigits 10 coefficient
  let kept := (digits.reverse.dropWhile (· = '0')).reverse
  ⟨kept, exponent + (digits.length - kept.length : Nat)⟩

end Decimal

namespace Number

/-- The reals that round to a number, over a common denominator; the ends belong to it if
`closed`. -/
structure Neighbourhood where
  low : Nat
  centre : Nat
  high : Nat
  den : Nat
  closed : Bool

/-- Half way to the number below and above. Below a power of two the numbers lie twice as close. -/
def neighbourhood (x : Number) : Neighbourhood :=
  let m := x.significand
  let scale := Nat.pow 2 (x.exponent - 2).toNat
  let narrow := decide (m = exponentUnit) && decide (-1074 < x.exponent)
  { low := (4 * m - if narrow then 1 else 2) * scale
    centre := 4 * m * scale
    high := (4 * m + 2) * scale
    den := Nat.pow 2 (2 - x.exponent).toNat
    closed := m % 2 = 0 }

/-- The power of ten above `num / den`: it is below `10 ^ k` and at least `10 ^ (k - 1)`. -/
def decimalLength (num den : Nat) : Int :=
  if den ≤ num then (Nat.toDigits 10 (num / den)).length
  else
    let d := (Nat.toDigits 10 (den / num)).length
    if den = num * Nat.pow 10 (d - 1) then 2 - (d : Int) else 1 - (d : Int)

namespace Neighbourhood

def holds (n : Neighbourhood) (power : Int) (c : Nat) : Bool :=
  let here := c * n.den * Nat.pow 10 power.toNat
  let low := n.low * Nat.pow 10 (-power).toNat
  let high := n.high * Nat.pow 10 (-power).toNat
  if n.closed then decide (low ≤ here ∧ here ≤ high) else decide (low < here ∧ here < high)

/-- The multiple of `10 ^ power` that is nearest to the centre, if it lies in the neighbourhood. -/
def onGrid? (n : Neighbourhood) (tie : Tie) (power : Int) : Option Nat :=
  let num := n.centre * Nat.pow 10 (-power).toNat
  let den := n.den * Nat.pow 10 power.toNat
  let below := num / den
  let twice := 2 * (num % den)
  -- If any multiple lies in the neighbourhood, then one of the two next to the centre does.
  match n.holds power below, n.holds power (below + 1) with
  | false, false => none
  | true, false => some below
  | false, true => some (below + 1)
  | true, true =>
    if twice < den then some below
    else if den < twice then some (below + 1)
    else
      match tie with
      | .up => some (below + 1)
      | .even => some (if below % 2 = 0 then below else below + 1)

end Neighbourhood

/-- The shortest decimal of a finite number other than zero. Seventeen digits always suffice. -/
def shortest (x : Number) (tie : Tie) : Decimal :=
  let n := x.neighbourhood
  let length := decimalLength n.centre n.den
  let found := (List.range 17).findSome? fun i =>
    (n.onGrid? tie (length - (i + 1 : Nat))).map fun c =>
      Decimal.ofCoefficient c (length - (i + 1 : Nat))
  found.getD ⟨['0'], 0⟩

end Number

end CellLedger
