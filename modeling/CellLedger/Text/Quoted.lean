import CellLedger.Text.Hidden

/-!
Quoted text: double quotes around it, and an escape for every character that would break the quotes
or has no printed form.
-/

set_option autoImplicit false

namespace CellLedger.Text

/-- The code point in braces, in lower-case hexadecimal without leading zeros. -/
def codePointEscape (c : Char) : List Char :=
  ['\\', 'u', '\x7b'] ++ Nat.toDigits 16 c.toNat ++ ['\x7d']

def escapeChar (c : Char) : List Char :=
  if c = '\x00' then ['\\', '0']
  else if c = '\t' then ['\\', 't']
  else if c = '\r' then ['\\', 'r']
  else if c = '\n' then ['\\', 'n']
  else if c = '"' then ['\\', '"']
  else if c = '\\' then ['\\', '\\']
  else if isHidden c then codePointEscape c
  else [c]

def quoted (s : String) : String :=
  String.ofList ('"' :: s.toList.flatMap escapeChar ++ ['"'])

end CellLedger.Text
