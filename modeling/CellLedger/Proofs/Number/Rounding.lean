import CellLedger.Number.Nearest
import Mathlib.Algebra.Order.Field.Power
import Mathlib.Data.Int.Log
import Mathlib.Data.Rat.Floor
import Mathlib.Tactic.FieldSimp
import Mathlib.Tactic.Linarith
import Mathlib.Tactic.NormNum
import Mathlib.Tactic.Ring

/-!
Rounding to the nearest number is exact: a rational that lies no farther from a finite number than
half way to its neighbours rounds to it (`nearestMagnitude_of_near`).
-/

set_option autoImplicit false

namespace CellLedger.Number

section Parts

variable {x : Number}

theorem ofMagnitude_magnitude : ofMagnitude x.negative x.magnitude = x := by
  have bits := x.bits.toNat_lt
  have value : (if x.negative = true then signBit + x.magnitude else x.magnitude) =
      x.bits.toNat := by
    simp only [negative, magnitude, decide_eq_true_eq]
    split <;> simp only [signBit] at * <;> omega
  rw [ofMagnitude, value, UInt64.ofNat_toNat]

theorem exponent_ge : -1074 ≤ x.exponent := by
  simp only [exponent]
  omega

theorem exponent_le (finite : x.isFinite = true) : x.exponent ≤ 971 := by
  have below : x.magnitude < 0x7FF * 0x10000000000000 := of_decide_eq_true finite
  simp only [exponent, exponentUnit]
  omega

/-- The two ranges of finite magnitudes: with the least exponent, and with a full significand. -/
theorem parts (x : Number) :
    (x.magnitude < exponentUnit ∧ x.significand = x.magnitude ∧ x.exponent = -1074) ∨
      (exponentUnit ≤ x.significand ∧ x.significand < 2 * exponentUnit ∧
        (x.magnitude : ℤ) = (x.exponent + 1074) * exponentUnit + x.significand) := by
  by_cases small : x.magnitude < exponentUnit
  · left
    refine ⟨small, if_pos small, ?_⟩
    have none : x.magnitude / exponentUnit = 0 := Nat.div_eq_of_lt small
    simp [exponent, none]
  · right
    rw [significand, if_neg small]
    simp only [exponent, exponentUnit] at small ⊢
    omega

theorem magnitude_eq :
    (x.magnitude : ℤ) = (x.exponent + 1074) * exponentUnit + x.significand := by
  rcases x.parts with ⟨_, significand, exponent⟩ | ⟨_, _, magnitude⟩
  · rw [exponent, significand]
    ring
  · exact magnitude

theorem significand_lt : x.significand < 2 * exponentUnit := by
  rcases x.parts with ⟨small, significand, _⟩ | ⟨_, below, _⟩
  · omega
  · exact below

theorem significand_ge (normal : -1074 < x.exponent) : exponentUnit ≤ x.significand := by
  rcases x.parts with ⟨_, _, least⟩ | ⟨full, _⟩
  · omega
  · exact full

theorem significand_pos (nonzero : x.isZero = false) : 0 < x.significand := by
  have magnitude : x.magnitude ≠ 0 := of_decide_eq_false nonzero
  rcases x.parts with ⟨_, significand, _⟩ | ⟨full, _⟩
  · omega
  · exact lt_of_lt_of_le (by decide) full

end Parts

theorem zpow_eq_div {b : ℚ} (p : ℤ) : b ^ p.toNat / b ^ (-p).toNat = b ^ p := by
  rcases le_total 0 p with sign | sign
  · have none : (-p).toNat = 0 := by omega
    rw [none, pow_zero, div_one, ← zpow_natCast, Int.toNat_of_nonneg sign]
  · have none : p.toNat = 0 := by omega
    rw [none, pow_zero, one_div, ← zpow_natCast, Int.toNat_of_nonneg (by omega), zpow_neg,
      inv_inv]

/-- No other natural is nearer to the rational, and one as near only if this one is even. -/
structure RoundsTo (q : ℚ) (k : Nat) : Prop where
  low : k - 1 / 2 ≤ q
  high : q ≤ k + 1 / 2
  odd : k % 2 = 1 → k - 1 / 2 < q ∧ q < k + 1 / 2

theorem roundDiv_eq {num den k : Nat} (positive : 0 < den) (rounds : RoundsTo (num / den) k) :
    roundDiv num den = k := by
  have scale : (0 : ℚ) < den := by exact_mod_cast positive
  obtain ⟨low, high, odd⟩ := rounds
  rw [le_div_iff₀ scale] at low
  rw [div_le_iff₀ scale] at high
  rw [lt_div_iff₀ scale, div_lt_iff₀ scale] at odd
  have below : 2 * (den * k) ≤ 2 * num + den := by
    have : (2 * (den * k) : ℚ) ≤ 2 * num + den := by linarith
    exact_mod_cast this
  have above : 2 * num ≤ 2 * (den * k) + den := by
    have : (2 * num : ℚ) ≤ 2 * (den * k) + den := by linarith
    exact_mod_cast this
  have strict (isOdd : k % 2 = 1) : 2 * (den * k) < 2 * num + den ∧
      2 * num < 2 * (den * k) + den := by
    have : (2 * (den * k) : ℚ) < 2 * num + den ∧ (2 * num : ℚ) < 2 * (den * k) + den :=
      ⟨by linarith [(odd isOdd).1], by linarith [(odd isOdd).2]⟩
    exact_mod_cast this
  -- Only the quotient and its successor lie near enough.
  have whole := Nat.div_add_mod num den
  have rest := Nat.mod_lt num positive
  have least : num / den ≤ k := by
    by_contra more
    have : den * (k + 1) ≤ den * (num / den) := Nat.mul_le_mul_left den (by omega)
    rw [Nat.mul_add, Nat.mul_one] at this
    omega
  have most : k ≤ num / den + 1 := by
    by_contra more
    have : den * (num / den + 2) ≤ den * k := Nat.mul_le_mul_left den (by omega)
    rw [Nat.mul_add] at this
    omega
  rcases Nat.lt_or_ge (num / den) k with next | same
  · obtain rfl : k = num / den + 1 := by omega
    rw [Nat.mul_add, Nat.mul_one] at below strict
    exact if_neg (by omega)
  · obtain rfl : k = num / den := by omega
    exact if_pos (by omega)

section Places

theorem reachesPower_iff (num : Nat) {den : Nat} (denPos : 0 < den) (p : ℤ) :
    reachesPower num den p = true ↔ (2 : ℚ) ^ p ≤ num / den := by
  have scale : (0 : ℚ) < den := by exact_mod_cast denPos
  have shift : (0 : ℚ) < 2 ^ (-p).toNat := by positivity
  rw [reachesPower, decide_eq_true_eq, ← zpow_eq_div, div_le_div_iff₀ shift scale,
    mul_comm ((2 : ℚ) ^ p.toNat)]
  exact_mod_cast Iff.rfl

variable {num den : Nat}

theorem log_guess (numPos : 0 < num) (denPos : 0 < den) :
    (num.log2 - den.log2 : ℤ) - 1 ≤ Int.log 2 (num / den : ℚ) ∧
      Int.log 2 (num / den : ℚ) ≤ num.log2 - den.log2 := by
  have positive : (0 : ℚ) < num / den := by positivity
  have scale : (0 : ℚ) < den := by exact_mod_cast denPos
  have numLow : (2 : ℚ) ^ (num.log2 : ℤ) ≤ num := by
    exact_mod_cast Nat.log2_self_le numPos.ne'
  have numHigh : (num : ℚ) < 2 ^ (num.log2 + 1 : ℤ) := by exact_mod_cast Nat.lt_log2_self
  have denLow : (2 : ℚ) ^ (den.log2 : ℤ) ≤ den := by
    exact_mod_cast Nat.log2_self_le denPos.ne'
  have denHigh : (den : ℚ) < 2 ^ (den.log2 + 1 : ℤ) := by exact_mod_cast Nat.lt_log2_self
  constructor
  · rw [← Int.zpow_le_iff_le_log (by decide) positive]
    calc ((2 : ℕ) : ℚ) ^ ((num.log2 - den.log2 : ℤ) - 1)
        = 2 ^ (num.log2 : ℤ) / 2 ^ (den.log2 + 1 : ℤ) := by
          rw [← zpow_sub₀ two_ne_zero, Nat.cast_ofNat]
          ring_nf
      _ ≤ num / den := by gcongr
  · have below : (num / den : ℚ) < ((2 : ℕ) : ℚ) ^ (num.log2 - den.log2 + 1 : ℤ) := by
      calc (num / den : ℚ) < 2 ^ (num.log2 + 1 : ℤ) / 2 ^ (den.log2 : ℤ) := by gcongr
        _ = _ := by
          rw [← zpow_sub₀ two_ne_zero, Nat.cast_ofNat]
          ring_nf
    rw [Int.lt_zpow_iff_log_lt (by decide) positive] at below
    omega

theorem lastPlace_eq (numPos : 0 < num) (denPos : 0 < den) :
    lastPlace num den = max (Int.log 2 (num / den : ℚ) - 52) (-1074) := by
  obtain ⟨least, most⟩ := log_guess numPos denPos
  have positive : (0 : ℚ) < num / den := by positivity
  have reaches := reachesPower_iff num denPos (num.log2 - den.log2)
  rw [← Nat.cast_ofNat (R := ℚ), Int.zpow_le_iff_le_log (by decide) positive] at reaches
  simp only [lastPlace]
  split
  next reached =>
    have := reaches.mp reached
    omega
  next missed =>
    have := mt reaches.mpr missed
    omega

theorem nearestMagnitude_eq {k : Nat} {place : ℤ} (numPos : 0 < num) (denPos : 0 < den)
    (last : lastPlace num den = place) (rounds : RoundsTo (num / den / 2 ^ place) k) :
    nearestMagnitude num den = min ((place + 1074).toNat * exponentUnit + k) infinityMagnitude := by
  have quotient : ((num * 2 ^ (-place).toNat : ℕ) : ℚ) / (den * 2 ^ place.toNat : ℕ) =
      num / den / 2 ^ place := by
    rw [← zpow_eq_div (b := (2 : ℚ)) place]
    push_cast
    field_simp
  have kept : roundDiv (num * 2 ^ (-place).toNat) (den * 2 ^ place.toNat) = k :=
    roundDiv_eq (by positivity) (by rwa [quotient])
  simp only [nearestMagnitude, if_neg numPos.ne', last, Nat.pow_eq, kept]

end Places

/-- The quarters of its last place that lie between a number and the half way to the number below,
which is as close again if the number is the first with its exponent. -/
def quartersBelow (x : Number) : Nat :=
  if x.significand = exponentUnit ∧ -1074 < x.exponent then 1 else 2

/-- The rationals that round to a number, whose ends belong to it if its significand is even. -/
structure Near (x : Number) (q : ℚ) : Prop where
  low : (4 * x.significand - x.quartersBelow : ℚ) * 2 ^ (x.exponent - 2) ≤ q
  high : q ≤ (4 * x.significand + 2) * 2 ^ (x.exponent - 2)
  odd : x.significand % 2 = 1 →
    (4 * x.significand - x.quartersBelow : ℚ) * 2 ^ (x.exponent - 2) < q ∧
      q < (4 * x.significand + 2) * 2 ^ (x.exponent - 2)

section Near

variable {x : Number} {q : ℚ}

theorem quartersBelow_le : (x.quartersBelow : ℚ) ≤ 2 := by
  unfold quartersBelow
  split <;> norm_num

-- The neighbourhood in units of the last place.
theorem Near.scaled (near : x.Near q) :
    x.significand - (x.quartersBelow : ℚ) / 4 ≤ q / 2 ^ x.exponent ∧
      q / 2 ^ x.exponent ≤ x.significand + 1 / 2 ∧
      (x.significand % 2 = 1 → x.significand - (x.quartersBelow : ℚ) / 4 < q / 2 ^ x.exponent ∧
        q / 2 ^ x.exponent < x.significand + 1 / 2) := by
  obtain ⟨low, high, odd⟩ := near
  have unit : (0 : ℚ) < 2 ^ x.exponent := by positivity
  have quarter : (2 : ℚ) ^ (x.exponent - 2) = 2 ^ x.exponent / 4 := by
    rw [zpow_sub₀ two_ne_zero]
    norm_num
  rw [quarter] at low high odd
  rw [le_div_iff₀ unit, div_le_iff₀ unit, lt_div_iff₀ unit, div_lt_iff₀ unit]
  exact ⟨by linarith, by linarith, fun isOdd => ⟨by linarith [odd isOdd], by linarith [odd isOdd]⟩⟩

theorem Near.pos (near : x.Near q) (nonzero : x.isZero = false) : 0 < q := by
  have unit : (0 : ℚ) < 2 ^ (x.exponent - 2) := by positivity
  have significand : (1 : ℚ) ≤ x.significand := by exact_mod_cast significand_pos nonzero
  have below := quartersBelow_le (x := x)
  have low : 0 < (4 * x.significand - x.quartersBelow : ℚ) * 2 ^ (x.exponent - 2) :=
    mul_pos (by linarith) unit
  exact low.trans_le near.low

theorem Near.roundsTo (near : x.Near q) : RoundsTo (q / 2 ^ x.exponent) x.significand := by
  obtain ⟨low, high, odd⟩ := near.scaled
  have below := quartersBelow_le (x := x)
  exact ⟨by linarith, high, fun isOdd => ⟨by linarith [odd isOdd], (odd isOdd).2⟩⟩

theorem log_lt_iff (positive : 0 < q) (e : ℤ) (k : ℕ) :
    Int.log 2 q < e + k ↔ q / 2 ^ e < 2 ^ k := by
  have unit : (0 : ℚ) < 2 ^ e := by positivity
  rw [← Int.lt_zpow_iff_log_lt (by decide) positive, zpow_add₀ (by norm_num), zpow_natCast,
    div_lt_iff₀ unit, mul_comm, Nat.cast_ofNat]

-- The leading place can drop only below the first number with its exponent.
theorem Near.leading (near : x.Near q) (nonzero : x.isZero = false) :
    max (Int.log 2 q - 52) (-1074) = x.exponent ∨
      (x.significand = exponentUnit ∧ -1074 < x.exponent ∧ Int.log 2 q = x.exponent + 51 ∧
        exponentUnit - 1 / 4 ≤ q / 2 ^ x.exponent ∧ q / 2 ^ x.exponent < exponentUnit) := by
  have positive := near.pos nonzero
  obtain ⟨low, high, _⟩ := near.scaled
  have least := exponent_ge (x := x)
  have most : Int.log 2 q < x.exponent + 53 := by
    have full : (x.significand + 1 : ℚ) ≤ 2 * exponentUnit := by exact_mod_cast significand_lt
    refine (log_lt_iff positive _ 53).mpr ?_
    norm_num [exponentUnit] at full ⊢
    linarith
  by_cases reaches : q / 2 ^ x.exponent < 2 ^ 52
  · have below := (log_lt_iff positive _ 52).mpr reaches
    by_cases subnormal : x.exponent = -1074
    · left
      omega
    · right
      have normal : -1074 < x.exponent := by omega
      have full := significand_ge normal
      have first : x.significand = exponentUnit := by
        by_contra other
        have more : (2 ^ 52 + 1 : ℚ) ≤ x.significand := by
          exact_mod_cast Nat.lt_of_le_of_ne full (Ne.symm other)
        have quarters := quartersBelow_le (x := x)
        linarith
      have quarters : x.quartersBelow = 1 := if_pos ⟨first, normal⟩
      rw [first, quarters] at low
      norm_num [exponentUnit] at low reaches
      have above := (log_lt_iff positive x.exponent 51).not.mpr (by norm_num; linarith)
      refine ⟨first, normal, by omega, ?_, ?_⟩ <;> norm_num [exponentUnit] <;> linarith
  · have above := (log_lt_iff positive x.exponent 52).not.mpr reaches
    left
    omega

theorem nearestMagnitude_of_near (finite : x.isFinite = true) (nonzero : x.isZero = false)
    {num den : Nat} (numPos : 0 < num) (denPos : 0 < den) (near : x.Near (num / den)) :
    nearestMagnitude num den = x.magnitude := by
  have least := exponent_ge (x := x)
  have below : x.magnitude < infinityMagnitude := of_decide_eq_true finite
  have place := lastPlace_eq numPos denPos
  have magnitude := magnitude_eq (x := x)
  rcases near.leading nonzero with leading | ⟨first, normal, leading, low, high⟩
  · rw [leading] at place
    rw [nearestMagnitude_eq numPos denPos place near.roundsTo]
    have same : (x.exponent + 1074).toNat * exponentUnit + x.significand = x.magnitude := by
      simp only [exponentUnit] at magnitude ⊢
      omega
    rw [same, min_eq_left below.le]
  · -- In units half as large the quotient is rounded up to a power of two, which carries.
    have preceding : lastPlace num den = x.exponent - 1 := by omega
    have rounds : RoundsTo (num / den / 2 ^ (x.exponent - 1)) (2 * exponentUnit) := by
      have double : (num / den / 2 ^ (x.exponent - 1) : ℚ) = 2 * (num / den / 2 ^ x.exponent) := by
        rw [zpow_sub_one₀ two_ne_zero]
        field_simp
      rw [double]
      refine ⟨?_, ?_, ?_⟩
      · push_cast
        linarith
      · push_cast
        linarith
      · omega
    rw [nearestMagnitude_eq numPos denPos preceding rounds]
    have same : (x.exponent - 1 + 1074).toNat * exponentUnit + 2 * exponentUnit =
        x.magnitude := by
      simp only [exponentUnit] at first magnitude ⊢
      omega
    rw [same, min_eq_left below.le]

end Near

end CellLedger.Number
