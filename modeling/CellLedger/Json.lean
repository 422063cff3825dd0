/-!
JSON values as they are written: numbers by their digits, objects with their members in order and
repetitions kept. Writing is compact.
-/

set_option autoImplicit false

namespace CellLedger

/-- A number by its digits. A fraction without digits stands for a number without a point. -/
structure Numeral where
  negative : Bool
  whole : List Char
  fraction : List Char
  exponent : Option Int
  deriving DecidableEq, Repr

/-- A string is `none` if it is written with an unpaired surrogate, so that it is no text. -/
inductive Json where
  | null
  | bool (b : Bool)
  | number (n : Numeral)
  | string (s : Option String)
  | array (items : List Json)
  | object (members : List (Option String × Json))
  deriving Inhabited

namespace Json

def text (s : String) : Json := .string (some s)

/-- An object with these members, all of whose names are texts. -/
def record (members : List (String × Json)) : Json :=
  .object (members.map fun m => (some m.1, m.2))

def natural (n : Nat) : Json := .number ⟨false, Nat.toDigits 10 n, [], none⟩

def controlEscape (c : Char) : List Char :=
  let digits := Nat.toDigits 16 c.toNat
  '\\' :: 'u' :: List.replicate (4 - digits.length) '0' ++ digits

def escapeChar (c : Char) : List Char :=
  if c = '"' then ['\\', '"']
  else if c = '\\' then ['\\', '\\']
  else if c = '\n' then ['\\', 'n']
  else if c = '\r' then ['\\', 'r']
  else if c = '\t' then ['\\', 't']
  else if c = '\x08' then ['\\', 'b']
  else if c = '\x0c' then ['\\', 'f']
  else if c.toNat < 0x20 then controlEscape c
  else [c]

def quote (s : String) : List Char := '"' :: s.toList.flatMap escapeChar ++ ['"']

/-- An unpaired surrogate for a string that is no text. -/
def writeString : Option String → List Char
  | some s => quote s
  | none => ['"', '\\', 'u', 'd', '8', '0', '0', '"']

def signedChars (n : Int) : List Char :=
  (if n < 0 then '-' else '+') :: Nat.toDigits 10 n.natAbs

end Json

/-- An exponent bears its sign, also if it is positive. -/
def Numeral.write (n : Numeral) : List Char :=
  (if n.negative then ['-'] else []) ++ n.whole ++
    (if n.fraction = [] then [] else '.' :: n.fraction) ++
    match n.exponent with
    | none => []
    | some e => 'e' :: Json.signedChars e

namespace Json

mutual

def write : Json → List Char
  | .null => ['n', 'u', 'l', 'l']
  | .bool true => ['t', 'r', 'u', 'e']
  | .bool false => ['f', 'a', 'l', 's', 'e']
  | .number n => n.write
  | .string s => writeString s
  | .array items => '[' :: writeItems items ++ [']']
  | .object members => '\x7b' :: writeMembers members ++ ['\x7d']

def writeItems : List Json → List Char
  | [] => []
  | [j] => j.write
  | j :: k :: rest => j.write ++ ',' :: writeItems (k :: rest)

def writeMembers : List (Option String × Json) → List Char
  | [] => []
  | [(name, j)] => writeString name ++ ':' :: j.write
  | (name, j) :: m :: rest => writeString name ++ ':' :: j.write ++ ',' :: writeMembers (m :: rest)

end

end Json

end CellLedger
