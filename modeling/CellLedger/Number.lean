/-!
Numbers a cell can hold: the 64-bit binary floating-point format with its two zeros, two infinities
and its not-a-number patterns. `Number.same` is the equality of values, which is coarser than
equality of bits: all not-a-numbers are one value, and so are the two zeros.
-/

set_option autoImplicit false

namespace CellLedger

/-- A floating-point number, by its bits: sign, eleven of exponent, fifty-two of fraction. -/
structure Number where
  bits : UInt64
  deriving DecidableEq, Repr

namespace Number

/-- The value of the sign bit. -/
def signBit : Nat := 0x8000000000000000

/-- The value of the lowest bit of the exponent, above all fifty-two of the fraction. -/
def exponentUnit : Nat := 0x10000000000000

/-- The bits below the sign of an infinity; larger magnitudes are not numbers. -/
def infinityMagnitude : Nat := 0x7FF * exponentUnit

def ofMagnitude (negative : Bool) (magnitude : Nat) : Number :=
  ⟨UInt64.ofNat (if negative then signBit + magnitude else magnitude)⟩

def zero : Number := ⟨0⟩

def nan : Number := ⟨0x7FF8000000000000⟩

def infinity (negative : Bool) : Number := ofMagnitude negative infinityMagnitude

instance : Inhabited Number := ⟨zero⟩

def negative (x : Number) : Bool := decide (signBit ≤ x.bits.toNat)

def magnitude (x : Number) : Nat := x.bits.toNat % signBit

def isNaN (x : Number) : Bool := decide (infinityMagnitude < x.magnitude)

def isFinite (x : Number) : Bool := decide (x.magnitude < infinityMagnitude)

def isZero (x : Number) : Bool := decide (x.magnitude = 0)

/-- A finite number is `significand * 2 ^ exponent` up to its sign. -/
def significand (x : Number) : Nat :=
  if x.magnitude < exponentUnit then x.magnitude
  else exponentUnit + x.magnitude % exponentUnit

def exponent (x : Number) : Int :=
  (max (x.magnitude / exponentUnit) 1 : Nat) - 1075

def same (x y : Number) : Bool :=
  decide (x = y) || (x.isNaN && y.isNaN) || (x.isZero && y.isZero)

@[simp] theorem same_refl (x : Number) : x.same x = true := by simp [same]

theorem same_symm {x y : Number} (h : x.same y = true) : y.same x = true := by
  simp only [same, Bool.or_eq_true, Bool.and_eq_true, decide_eq_true_eq] at h ⊢
  rcases h with (h | h) | h
  · exact .inl (.inl h.symm)
  · exact .inl (.inr h.symm)
  · exact .inr h.symm

theorem isZero_eq_false_of_isNaN {x : Number} (h : x.isNaN = true) : x.isZero = false := by
  have above := of_decide_eq_true h
  refine decide_eq_false fun same => ?_
  rw [same] at above
  exact absurd above (Nat.not_lt_zero _)

theorem same_trans {x y z : Number} (h : x.same y = true) (k : y.same z = true) :
    x.same z = true := by
  simp only [same, Bool.or_eq_true, Bool.and_eq_true, decide_eq_true_eq] at h k ⊢
  rcases h with (rfl | h) | h
  · exact k
  · rcases k with (rfl | k) | k
    · exact .inl (.inr h)
    · exact .inl (.inr ⟨h.1, k.2⟩)
    · simp [isZero_eq_false_of_isNaN h.2] at k
  · rcases k with (rfl | k) | k
    · exact .inr h
    · simp [isZero_eq_false_of_isNaN k.1] at h
    · exact .inr ⟨h.1, k.2⟩

end Number

end CellLedger
