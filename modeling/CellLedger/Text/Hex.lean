/-!
Hexadecimal digits of either case.
-/

set_option autoImplicit false

namespace CellLedger.Text

def hexDigit? (c : Char) : Option Nat :=
  if '0' ≤ c ∧ c ≤ '9' then some (c.toNat - 48)
  else if 'a' ≤ c ∧ c ≤ 'f' then some (c.toNat - 87)
  else if 'A' ≤ c ∧ c ≤ 'F' then some (c.toNat - 55)
  else none

def hexValue? (cs : List Char) : Option Nat :=
  (cs.mapM hexDigit?).map fun ds => ds.foldl (fun n d => n * 16 + d) 0

end CellLedger.Text
