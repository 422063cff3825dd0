import CellLedger.Json
import CellLedger.Text.Hex

/-!
Reading JSON. The grammar is strict: no comma before a closing bracket, no leading zeros, no control
character inside a string, and nothing but blanks around the value.
-/

set_option autoImplicit false

namespace CellLedger.Json

def isBlank (c : Char) : Bool := c = ' ' || c = '\t' || c = '\n' || c = '\r'

def skipBlanks (cs : List Char) : List Char := cs.dropWhile isBlank

def unescape? (c : Char) : Option Char :=
  if c = '"' ∨ c = '\\' ∨ c = '/' then some c
  else if c = 'b' then some '\x08'
  else if c = 'f' then some '\x0c'
  else if c = 'n' then some '\n'
  else if c = 'r' then some '\r'
  else if c = 't' then some '\t'
  else none

/-- A piece of a string: a character, or an escaped sixteen-bit unit. -/
inductive Piece where
  | char (c : Char)
  | unit (n : Nat)
  deriving DecidableEq, Repr

/-- The pieces up to the closing quote, and what follows it. -/
def readPieces : List Char → Option (List Piece × List Char)
  | [] => none
  | c :: rest =>
    if c = '"' then some ([], rest)
    else if c = '\\' then
      match rest with
      | 'u' :: a :: b :: c :: d :: rest =>
        match Text.hexValue? [a, b, c, d] with
        | none => none
        | some n => (readPieces rest).map fun r => (.unit n :: r.1, r.2)
      | e :: rest =>
        match unescape? e with
        | none => none
        | some c => (readPieces rest).map fun r => (.char c :: r.1, r.2)
      | [] => none
    else if c.toNat < 0x20 then none
    else (readPieces rest).map fun r => (.char c :: r.1, r.2)

def isHighSurrogate (n : Nat) : Bool := 0xD800 ≤ n && n < 0xDC00

def isLowSurrogate (n : Nat) : Bool := 0xDC00 ≤ n && n < 0xE000

/-- The characters, a pair of surrogates being one; `none` if a surrogate is unpaired. -/
def joinPieces : List Piece → Option (List Char)
  | [] => some []
  | .char c :: rest => (joinPieces rest).map (c :: ·)
  | .unit n :: rest =>
    -- Surrogates count only as escapes: a high one takes the unit after it.
    if isHighSurrogate n then
      match rest with
      | .unit m :: rest =>
        if isLowSurrogate m then
          (joinPieces rest).map
            (Char.ofNat (0x10000 + (n - 0xD800) * 0x400 + (m - 0xDC00)) :: ·)
        else none
      | _ => none
    else if isLowSurrogate n then none
    else (joinPieces rest).map (Char.ofNat n :: ·)

def readString (cs : List Char) : Option (Option String × List Char) :=
  (readPieces cs).map fun r => ((joinPieces r.1).map String.ofList, r.2)

def readDigits (cs : List Char) : Option (List Char × List Char) :=
  let digits := cs.takeWhile Char.isDigit
  if digits = [] then none else some (digits, cs.dropWhile Char.isDigit)

def readFraction (cs : List Char) : Option (List Char × List Char) :=
  match cs with
  | '.' :: rest => readDigits rest
  | _ => some ([], cs)

def readExponentDigits (negative : Bool) (cs : List Char) : Option (Option Int × List Char) :=
  (readDigits cs).map fun r =>
    let n : Int := Nat.ofDigitChars 10 r.1 0
    (some (if negative then -n else n), r.2)

def readExponent (cs : List Char) : Option (Option Int × List Char) :=
  match cs with
  | c :: rest =>
    if c = 'e' ∨ c = 'E' then
      match rest with
      | '-' :: rest => readExponentDigits true rest
      | '+' :: rest => readExponentDigits false rest
      | _ => readExponentDigits false rest
    else some (none, cs)
  | [] => some (none, [])

def readUnsigned (negative : Bool) (cs : List Char) : Option (Numeral × List Char) := do
  let (whole, rest) ← readDigits cs
  if whole.head? = some '0' ∧ 1 < whole.length then none
  else
    let (fraction, rest) ← readFraction rest
    let (exponent, rest) ← readExponent rest
    some (⟨negative, whole, fraction, exponent⟩, rest)

def readNumeral (cs : List Char) : Option (Numeral × List Char) :=
  match cs with
  | '-' :: rest => readUnsigned true rest
  | _ => readUnsigned false cs

def expect (word cs : List Char) : Option (List Char) :=
  if word.isPrefixOf cs then some (cs.drop word.length) else none

mutual

/-- The value at the front. The fuel bounds the calls under way. -/
def readValue : Nat → List Char → Option (Json × List Char)
  | 0, _ => none
  | fuel + 1, cs =>
    match skipBlanks cs with
    | [] => none
    | c :: rest =>
      if c = '"' then (readString rest).map fun r => (.string r.1, r.2)
      else if c = '[' then
        match skipBlanks rest with
        | ']' :: rest => some (.array [], rest)
        | _ => (readItems fuel rest).map fun r => (.array r.1, r.2)
      else if c = '\x7b' then
        match skipBlanks rest with
        | '\x7d' :: rest => some (.object [], rest)
        | _ => (readMembers fuel rest).map fun r => (.object r.1, r.2)
      else if c = 'n' then (expect ['u', 'l', 'l'] rest).map fun r => (.null, r)
      else if c = 't' then (expect ['r', 'u', 'e'] rest).map fun r => (.bool true, r)
      else if c = 'f' then (expect ['a', 'l', 's', 'e'] rest).map fun r => (.bool false, r)
      else (readNumeral (c :: rest)).map fun r => (.number r.1, r.2)

def readItems : Nat → List Char → Option (List Json × List Char)
  | 0, _ => none
  | fuel + 1, cs =>
    match readValue fuel cs with
    | none => none
    | some (item, rest) =>
      match skipBlanks rest with
      | ',' :: rest => (readItems fuel rest).map fun r => (item :: r.1, r.2)
      | ']' :: rest => some ([item], rest)
      | _ => none

def readMembers : Nat → List Char → Option (List (Option String × Json) × List Char)
  | 0, _ => none
  | fuel + 1, cs =>
    match skipBlanks cs with
    | '"' :: rest =>
      match readString rest with
      | none => none
      | some (name, rest) =>
        match skipBlanks rest with
        | ':' :: rest =>
          match readValue fuel rest with
          | none => none
          | some (value, rest) =>
            match skipBlanks rest with
            | ',' :: rest => (readMembers fuel rest).map fun r => ((name, value) :: r.1, r.2)
            | '\x7d' :: rest => some ([(name, value)], rest)
            | _ => none
        | _ => none
    | _ => none

end

def ofChars? (cs : List Char) : Option Json :=
  match readValue (2 * cs.length + 2) cs with
  | some (j, rest) => if skipBlanks rest = [] then some j else none
  | none => none

end CellLedger.Json
