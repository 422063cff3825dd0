import CellLedger.Json
import CellLedger.Number.Nearest
import CellLedger.Number.Shortest

/-!
Numbers in JSON. A number is written by its shortest decimal, positionally unless it is large or
small, and a numeral is read as the number nearest to it. A numeral nearest to no finite number is
not read.
-/

set_option autoImplicit false

namespace CellLedger.Numeral

/-- Of two decimals equally near the even one is written. -/
def ofDecimal (negative : Bool) (d : Decimal) : Numeral :=
  let point := d.digits.length + d.exponent
  if 0 ≤ d.exponent ∧ point ≤ 16 then
    ⟨negative, d.digits ++ List.replicate d.exponent.toNat '0', ['0'], none⟩
  else if 0 < point ∧ point ≤ 16 then
    ⟨negative, d.digits.take point.toNat, d.digits.drop point.toNat, none⟩
  else if -5 < point ∧ point ≤ 0 then
    ⟨negative, ['0'], List.replicate (-point).toNat '0' ++ d.digits, none⟩
  else ⟨negative, d.digits.take 1, d.digits.drop 1, some (point - 1)⟩

/-- The numeral of a finite number; an integer is written with a zero after its point. -/
def ofNumber (x : Number) : Numeral :=
  if x.isZero then ⟨x.negative, ['0'], ['0'], none⟩ else ofDecimal x.negative (x.shortest .even)

def number? (n : Numeral) : Option Number :=
  let coefficient := Nat.ofDigitChars 10 (n.whole ++ n.fraction) 0
  let x := Number.ofDecimal n.negative coefficient (n.exponent.getD 0 - n.fraction.length)
  if x.isFinite then some x else none

/-- The natural below the bound that an unsigned integer stands for. -/
def natural? (bound : Nat) (n : Numeral) : Option Nat :=
  let value := Nat.ofDigitChars 10 n.whole 0
  if n.negative = false ∧ n.fraction = [] ∧ n.exponent = none ∧ value < bound then some value
  else none

end CellLedger.Numeral
