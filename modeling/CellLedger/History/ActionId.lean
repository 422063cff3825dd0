import CellLedger.Text.Hex

/-!
Identifiers of recorded actions: 128 bits, written as five groups of lower-case hexadecimal digits.
-/

set_option autoImplicit false

namespace CellLedger

structure ActionId where
  value : BitVec 128
  deriving DecidableEq, Repr, Inhabited

namespace ActionId

def hexDigits (id : ActionId) : List Char :=
  let digits := Nat.toDigits 16 id.value.toNat
  List.replicate (32 - digits.length) '0' ++ digits

def groups : List Nat := [8, 4, 4, 4, 12]

def grouped : List Nat → List Char → List Char
  | [], digits => digits
  | [_], digits => digits
  | n :: rest, digits => digits.take n ++ '-' :: grouped rest (digits.drop n)

def text (id : ActionId) : String := String.ofList (grouped groups id.hexDigits)

/-- Exactly thirty-two digits of either case. -/
def ofHexDigits? (cs : List Char) : Option ActionId :=
  if cs.length = 32 then
    (Text.hexValue? cs).map fun n => ⟨BitVec.ofNat 128 n⟩
  else none

/-- The digits of a text with hyphens where the groups meet and nowhere else. -/
def ungroup? : List Nat → List Char → Option (List Char)
  | [], cs => if cs = [] then some [] else none
  | [n], cs => if cs.length = n then some cs else none
  | n :: rest, cs =>
    match cs.drop n with
    | '-' :: more => (ungroup? rest more).map (cs.take n ++ ·)
    | _ => none

def ofGrouped? (cs : List Char) : Option ActionId := (ungroup? groups cs).bind ofHexDigits?

def urn : List Char := "urn:uuid:".toList

/-- Digits with hyphens, bare, in braces or after the name space, or digits alone. -/
def ofText? (s : String) : Option ActionId :=
  let cs := s.toList
  if cs.length = 32 then ofHexDigits? cs
  else if cs.head? = some '\x7b' && cs.getLast? = some '\x7d' then
    ofGrouped? (cs.drop 1).dropLast
  else if urn.isPrefixOf (cs.map Char.toLower) then ofGrouped? (cs.drop urn.length)
  else ofGrouped? cs

end ActionId

end CellLedger
