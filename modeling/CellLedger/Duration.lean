/-!
Spans of time in nanoseconds, and instants counted from an arbitrary origin.
-/

set_option autoImplicit false

namespace CellLedger

structure Duration where
  nanoseconds : Nat
  deriving DecidableEq, Repr, Inhabited

/-- A reading of the clock, in nanoseconds. -/
abbrev Instant := Nat

namespace Duration

/-- Units of time, in nanoseconds. -/
def second : Nat := 1000000000

def millisecond : Nat := 1000000

def microsecond : Nat := 1000

def zero : Duration := ⟨0⟩

def ofSeconds (n : Nat) : Duration := ⟨n * second⟩

def ofMicroseconds (n : Nat) : Duration := ⟨n * microsecond⟩

def seconds (d : Duration) : Nat := d.nanoseconds / second

def milliseconds (d : Duration) : Nat := d.nanoseconds / millisecond

def microseconds (d : Duration) : Nat := d.nanoseconds / microsecond

def subsecond (d : Duration) : Nat := d.nanoseconds % second

instance : Add Duration := ⟨fun a b => ⟨a.nanoseconds + b.nanoseconds⟩⟩

instance : LT Duration := ⟨fun a b => a.nanoseconds < b.nanoseconds⟩

instance : DecidableLT Duration := fun a b =>
  inferInstanceAs (Decidable (a.nanoseconds < b.nanoseconds))

def sum (ds : List Duration) : Duration := ds.foldr (· + ·) zero

/-- From one instant to another; zero if the second is the earlier. -/
def between (start now : Instant) : Duration := ⟨now - start⟩

/-- The part in whole units, and after a point the rest without zeros at its end. -/
def inUnit (unit digits n : Nat) : String :=
  let rest := Nat.toDigits 10 (n % unit)
  let padded := List.replicate (digits - rest.length) '0' ++ rest
  let kept := (padded.reverse.dropWhile (· = '0')).reverse
  let whole := Nat.toDigits 10 (n / unit)
  if digits = 0 ∨ kept = [] then String.ofList whole
  else String.ofList (whole ++ '.' :: kept)

/-- The duration in the largest of the units s, ms, µs and ns in which it is at least one. -/
def text (d : Duration) : String :=
  let n := d.nanoseconds
  if second ≤ n then inUnit second 9 n ++ "s"
  else if millisecond ≤ n then inUnit millisecond 6 n ++ "ms"
  else if microsecond ≤ n then inUnit microsecond 3 n ++ "µs"
  else inUnit 1 0 n ++ "ns"

end Duration

end CellLedger
