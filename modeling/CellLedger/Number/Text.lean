import CellLedger.Number.Nearest
import CellLedger.Number.Shortest

/-!
The text of a number: its shortest decimal in positional notation, whatever its size, and the
reading of decimal texts.
-/

set_option autoImplicit false

namespace CellLedger

/-- Positional notation: no exponent, and a point only before a fraction. -/
def Decimal.positional (d : Decimal) : List Char :=
  let places := (-d.exponent).toNat
  if places = 0 then d.digits ++ List.replicate d.exponent.toNat '0'
  else if places < d.digits.length then
    d.digits.take (d.digits.length - places) ++ '.' :: d.digits.drop (d.digits.length - places)
  else '0' :: '.' :: List.replicate (places - d.digits.length) '0' ++ d.digits

namespace Number

def signed (x : Number) (cs : List Char) : List Char :=
  if x.negative then '-' :: cs else cs

/-- Of two decimals equally near the larger is written, and not-a-number has no sign. -/
def text (x : Number) : String :=
  if x.isNaN then "NaN"
  else if !x.isFinite then String.ofList (x.signed ['i', 'n', 'f'])
  else if x.isZero then String.ofList (x.signed ['0'])
  else String.ofList (x.signed (x.shortest .up).positional)

/-- An exponent: an optional sign and digits. -/
def readExponent? (cs : List Char) : Option Int :=
  let digits := match cs with
    | '+' :: rest => rest
    | '-' :: rest => rest
    | _ => cs
  if digits.isEmpty || !digits.all Char.isDigit then none
  else
    let n : Int := Nat.ofDigitChars 10 digits 0
    some (if cs.head? = some '-' then -n else n)

/-- Digits with at most one point among them and an optional exponent; at least one digit stands
before the exponent. -/
def readDecimal? (negative : Bool) (cs : List Char) : Option Number :=
  let whole := cs.takeWhile Char.isDigit
  let afterWhole := cs.dropWhile Char.isDigit
  let (fractional, rest) := match afterWhole with
    | '.' :: rest => (rest.takeWhile Char.isDigit, rest.dropWhile Char.isDigit)
    | rest => ([], rest)
  let number (power : Int) : Number :=
    ofDecimal negative (Nat.ofDigitChars 10 (whole ++ fractional) 0) (power - fractional.length)
  if whole.isEmpty && fractional.isEmpty then none
  else
    match rest with
    | [] => some (number 0)
    | c :: rest =>
      if c = 'e' ∨ c = 'E' then (readExponent? rest).map number else none

/-- An optional sign before a decimal, an infinity or not-a-number; names in any case. -/
def ofText? (s : String) : Option Number :=
  let unsigned (negative : Bool) (cs : List Char) : Option Number :=
    let name := String.ofList (cs.map Char.toLower)
    if name = "nan" then some ⟨if negative then 0xFFF8000000000000 else nan.bits⟩
    else if name = "inf" ∨ name = "infinity" then some (infinity negative)
    else readDecimal? negative cs
  match s.toList with
  | '-' :: rest => unsigned true rest
  | '+' :: rest => unsigned false rest
  | cs => unsigned false cs

end Number

end CellLedger
