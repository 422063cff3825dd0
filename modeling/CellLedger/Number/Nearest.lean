import CellLedger.Number

/-!
Rounding a quotient of naturals to the nearest number, a tie going to the even neighbour, and
reading decimals by that rounding.
-/

set_option autoImplicit false

namespace CellLedger.Number

/-- The natural nearest to `num / den`, of two equally near the even one. -/
def roundDiv (num den : Nat) : Nat :=
  let floor := num / den
  let twice := 2 * (num % den)
  if twice < den ∨ (twice = den ∧ floor % 2 = 0) then floor else floor + 1

def reachesPower (num den : Nat) (power : Int) : Bool :=
  decide (den * Nat.pow 2 power.toNat ≤ num * Nat.pow 2 (-power).toNat)

/-- The exponent of the last binary place kept for `num / den`. -/
def lastPlace (num den : Nat) : Int :=
  let guess : Int := num.log2 - den.log2
  -- The lengths in bits leave two candidates for the leading place.
  let leading := if reachesPower num den guess then guess else guess - 1
  max (leading - 52) (-1074)

def nearestMagnitude (num den : Nat) : Nat :=
  if num = 0 then 0
  else
    let place := lastPlace num den
    let kept := roundDiv (num * Nat.pow 2 (-place).toNat) (den * Nat.pow 2 place.toNat)
    -- Rounding up to a power of two carries into the exponent.
    min ((place + 1074).toNat * exponentUnit + kept) infinityMagnitude

def nearest (negative : Bool) (num den : Nat) : Number :=
  ofMagnitude negative (nearestMagnitude num den)

/-- The number nearest to `coefficient * 10 ^ power`. Powers that no coefficient of this length can
bring back into range are settled without computing them. -/
def ofDecimal (negative : Bool) (coefficient : Nat) (power : Int) : Number :=
  let leading := (Nat.toDigits 10 coefficient).length + power
  if coefficient = 0 ∨ leading < -330 then ofMagnitude negative 0
  else if leading > 310 then infinity negative
  else nearest negative (coefficient * Nat.pow 10 power.toNat) (Nat.pow 10 (-power).toNat)

end CellLedger.Number
