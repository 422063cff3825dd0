import CellLedger.Number.Shortest
import CellLedger.Proofs.Number.Rounding
import Mathlib.Data.List.TakeWhile
import Mathlib.Data.Nat.Cast.Order.Field

/-!
The shortest decimal of a finite number other than zero lies near the number (`shortest_near`).
-/

set_option autoImplicit false

namespace CellLedger

section Digits

variable (n : Nat)

theorem lt_pow_length : n < 10 ^ (Nat.toDigits 10 n).length :=
  (Nat.length_toDigits_le_iff (by decide) Nat.length_toDigits_pos).mp le_rfl

variable {n}

theorem pow_length_le (positive : 0 < n) : 10 ^ ((Nat.toDigits 10 n).length - 1) ≤ n := by
  rcases Nat.eq_zero_or_pos ((Nat.toDigits 10 n).length - 1) with one | more
  · rw [one]
    exact positive
  · have longer : ¬ (Nat.toDigits 10 n).length ≤ (Nat.toDigits 10 n).length - 1 := by omega
    rw [Nat.length_toDigits_le_iff (by decide) more] at longer
    omega

theorem ofDigitChars_lt {cs : List Char} (digits : ∀ c ∈ cs, c.isDigit = true) :
    Nat.ofDigitChars 10 cs 0 < 10 ^ cs.length := by
  induction cs with
  | nil => decide
  | cons c cs ih =>
    have rest := ih fun d member => digits d (List.mem_cons_of_mem _ member)
    have digit : c.toNat - '0'.toNat ≤ 9 := by
      have bounds := digits c List.mem_cons_self
      simp only [Char.isDigit, Bool.and_eq_true, decide_eq_true_eq, UInt32.le_iff_toNat_le]
        at bounds
      have : c.toNat ≤ 57 := bounds.2
      have : '0'.toNat = 48 := rfl
      omega
    rw [Nat.ofDigitChars_cons, Nat.mul_zero, Nat.zero_add, Nat.ofDigitChars_eq_ofDigitChars_zero,
      List.length_cons, Nat.pow_succ]
    have := Nat.mul_le_mul_left (10 ^ cs.length) digit
    omega

theorem toDigits_head (positive : 0 < n) : (Nat.toDigits 10 n).head? ≠ some '0' := by
  intro zero
  obtain ⟨rest, written⟩ := List.head?_eq_some_iff.mp zero
  have value : Nat.ofDigitChars 10 rest 0 = n := by
    rw [← Nat.ofDigitChars_ten_toDigits (n := n), written]
    simp [Nat.ofDigitChars_cons]
  have digits : ∀ c ∈ rest, c.isDigit = true := fun c member =>
    Nat.isDigit_of_mem_toDigits (by decide) (by decide) (written ▸ List.mem_cons_of_mem _ member)
  have short := ofDigitChars_lt digits
  have long := pow_length_le positive
  rw [written, List.length_cons, Nat.add_sub_cancel] at long
  omega

end Digits

namespace Decimal

/-- Digits without leading zeros that stand for this rational. -/
structure Denotes (d : Decimal) (q : ℚ) : Prop where
  nonempty : d.digits ≠ []
  digits : ∀ c ∈ d.digits, c.isDigit = true
  leading : d.digits.head? ≠ some '0'
  value : (Nat.ofDigitChars 10 d.digits 0 : ℚ) * 10 ^ d.exponent = q

theorem ofCoefficient_denotes {c : Nat} (positive : 0 < c) (p : ℤ) :
    (ofCoefficient c p).Denotes (c * 10 ^ p) := by
  let digits := Nat.toDigits 10 c
  let kept := (digits.reverse.dropWhile (· = '0')).reverse
  let zeros := (digits.reverse.takeWhile (· = '0')).length
  -- What is dropped from the end are zeros, which the exponent makes up for.
  have split : digits = kept ++ List.replicate zeros '0' := by
    have stripped : digits.reverse.takeWhile (· = '0') = List.replicate zeros '0' := by
      refine List.eq_replicate_of_mem fun d member => ?_
      simpa using List.mem_takeWhile_imp member
    have whole := List.takeWhile_append_dropWhile (p := (· = '0')) (l := digits.reverse)
    rw [stripped] at whole
    simpa [kept] using congrArg List.reverse whole.symm
  have value : c = 10 ^ zeros * Nat.ofDigitChars 10 kept 0 := by
    rw [← Nat.ofDigitChars_replicate_zero, ← Nat.ofDigitChars_append, ← split,
      Nat.ofDigitChars_ten_toDigits]
  have nonempty : kept ≠ [] := by
    intro none
    rw [none] at value
    simp at value
    omega
  have member {d : Char} (among : d ∈ kept) : d ∈ digits := by
    rw [split]
    exact List.mem_append_left _ among
  constructor
  · exact nonempty
  · exact fun d among => Nat.isDigit_of_mem_toDigits (by decide) (by decide) (member among)
  · intro zero
    refine toDigits_head positive ?_
    change digits.head? = some '0'
    rw [split, List.head?_append_of_ne_nil _ nonempty]
    exact zero
  · have stripped : digits.length - kept.length = zeros := by
      rw [split]
      simp
    change (Nat.ofDigitChars 10 kept 0 : ℚ) * 10 ^ (p + (digits.length - kept.length : ℕ)) = _
    have cast : (c : ℚ) = 10 ^ zeros * Nat.ofDigitChars 10 kept 0 := by exact_mod_cast value
    rw [stripped, zpow_add₀ (by norm_num), zpow_natCast, cast]
    ring

end Decimal

namespace Number

variable {x : Number}

-- The common denominator of a multiple of a power of two and one of a power of ten.
theorem common_scale (e p : ℤ) : ∃ scale : ℚ, 0 < scale ∧
    (∀ a : ℕ, ((a * 2 ^ e.toNat * 10 ^ (-p).toNat : ℕ) : ℚ) = a * 2 ^ e * scale) ∧
    ∀ c : ℕ, ((c * 2 ^ (-e).toNat * 10 ^ p.toNat : ℕ) : ℚ) = c * 10 ^ p * scale := by
  refine ⟨2 ^ (-e).toNat * 10 ^ (-p).toNat, by positivity, fun a => ?_, fun c => ?_⟩
  · rw [← zpow_eq_div (b := 2) e]
    push_cast
    field_simp
  · rw [← zpow_eq_div (b := 10) p]
    push_cast
    field_simp

theorem cross_multiply (e p : ℤ) (a c : Nat) :
    (a * 2 ^ e.toNat * 10 ^ (-p).toNat ≤ c * 2 ^ (-e).toNat * 10 ^ p.toNat ↔
        (a * 2 ^ e : ℚ) ≤ c * 10 ^ p) ∧
      (c * 2 ^ (-e).toNat * 10 ^ p.toNat ≤ a * 2 ^ e.toNat * 10 ^ (-p).toNat ↔
        (c * 10 ^ p : ℚ) ≤ a * 2 ^ e) := by
  obtain ⟨scale, positive, left, right⟩ := common_scale e p
  rw [← Nat.cast_le (α := ℚ), ← Nat.cast_le (α := ℚ), left, right,
    mul_le_mul_iff_left₀ positive, mul_le_mul_iff_left₀ positive]
  exact ⟨Iff.rfl, Iff.rfl⟩

theorem holds_iff (nonzero : x.isZero = false) (p : ℤ) (c : Nat) :
    x.neighbourhood.holds p c = true ↔ x.Near (c * 10 ^ p) := by
  have back : 2 - x.exponent = -(x.exponent - 2) := by ring
  have quarters : (if (decide (x.significand = exponentUnit) && decide (-1074 < x.exponent)) = true
      then 1 else 2) = x.quartersBelow := by
    simp [quartersBelow]
  have few : x.quartersBelow ≤ 4 * x.significand := by
    have : x.quartersBelow ≤ 2 := by exact_mod_cast quartersBelow_le (x := x)
    have := significand_pos nonzero
    omega
  have below : ((4 * x.significand - x.quartersBelow : ℕ) : ℚ) =
      4 * x.significand - x.quartersBelow := by
    push_cast [Nat.cast_sub few]
    rfl
  have above : ((4 * x.significand + 2 : ℕ) : ℚ) = 4 * x.significand + 2 := by push_cast; rfl
  obtain ⟨low, outside⟩ := cross_multiply (x.exponent - 2) p (4 * x.significand - x.quartersBelow) c
  obtain ⟨outsideToo, high⟩ := cross_multiply (x.exponent - 2) p (4 * x.significand + 2) c
  have lowStrict := outside.not
  have highStrict := outsideToo.not
  rw [not_le, not_le] at lowStrict highStrict
  rw [below] at low lowStrict
  rw [above] at high highStrict
  simp only [Neighbourhood.holds, neighbourhood, quarters, Nat.pow_eq, back]
  by_cases even : x.significand % 2 = 0
  · rw [if_pos (decide_eq_true even), decide_eq_true_eq, low, high]
    exact ⟨fun ⟨l, h⟩ => ⟨l, h, fun odd => by omega⟩, fun near => ⟨near.low, near.high⟩⟩
  · have odd : x.significand % 2 = 1 := by omega
    rw [if_neg (by simpa using even), decide_eq_true_eq, lowStrict, highStrict]
    exact ⟨fun ⟨l, h⟩ => ⟨l.le, h.le, fun _ => ⟨l, h⟩⟩, fun near => near.odd odd⟩

theorem onGrid?_holds {n : Neighbourhood} {tie : Tie} {p : ℤ} {c : Nat}
    (found : n.onGrid? tie p = some c) : n.holds p c = true := by
  simp only [Neighbourhood.onGrid?] at found
  grind

theorem onGrid?_eq_none {n : Neighbourhood} {tie : Tie} {p : ℤ}
    (none : n.onGrid? tie p = none) :
    let below := n.centre * 10 ^ (-p).toNat / (n.den * 10 ^ p.toNat)
    n.holds p below = false ∧ n.holds p (below + 1) = false := by
  simp only [Neighbourhood.onGrid?, Nat.pow_eq] at none
  grind

theorem decimalLength_ge {num den : Nat} (numPos : 0 < num) (denPos : 0 < den) :
    (10 : ℚ) ^ (decimalLength num den - 1) ≤ num / den := by
  have num0 : (0 : ℚ) < num := by exact_mod_cast numPos
  have den0 : (0 : ℚ) < den := by exact_mod_cast denPos
  unfold decimalLength
  split
  next large =>
    have whole : 0 < num / den := Nat.div_pos large denPos
    have length := Nat.length_toDigits_pos (b := 10) (n := num / den)
    calc (10 : ℚ) ^ ((Nat.toDigits 10 (num / den)).length - 1 : ℤ)
        = (10 ^ ((Nat.toDigits 10 (num / den)).length - 1) : ℕ) := by
          rw [Nat.cast_pow, ← zpow_natCast, Nat.cast_sub length, Nat.cast_ofNat, Nat.cast_one]
      _ ≤ (num / den : ℕ) := by exact_mod_cast pow_length_le whole
      _ ≤ num / den := Nat.cast_div_le
  next small =>
    let d := (Nat.toDigits 10 (den / num)).length
    have length : 0 < d := Nat.length_toDigits_pos
    have below : den < num * 10 ^ d :=
      (Nat.div_lt_iff_lt_mul numPos).mp (lt_pow_length (den / num)) |>.trans_eq (mul_comm _ _)
    rw [le_div_iff₀ den0]
    extract_lets
    split
    next exact =>
      have inverse : (2 - (d : ℤ) - 1 + (d - 1 : ℕ)) = 0 := by omega
      have power : (10 : ℚ) ^ (2 - (d : ℤ) - 1) * 10 ^ (d - 1) = 1 := by
        rw [← zpow_natCast, ← zpow_add₀ (by norm_num), inverse, zpow_zero]
      have same : (den : ℚ) = num * 10 ^ (d - 1) := by exact_mod_cast exact
      change (10 : ℚ) ^ (2 - (d : ℤ) - 1) * den ≤ num
      rw [same, mul_left_comm, power, mul_one]
    next =>
      have power : (10 : ℚ) ^ (1 - (d : ℤ) - 1) * 10 ^ d = 1 := by
        rw [← zpow_natCast, ← zpow_add₀ (by norm_num)]
        norm_num
      have less : (den : ℚ) ≤ num * 10 ^ d := by exact_mod_cast below.le
      change (10 : ℚ) ^ (1 - (d : ℤ) - 1) * den ≤ num
      calc (10 : ℚ) ^ (1 - (d : ℤ) - 1) * den
          ≤ 10 ^ (1 - (d : ℤ) - 1) * (num * 10 ^ d) := by gcongr
        _ = num := by rw [mul_left_comm, power, mul_one]

theorem neighbourhood_den_pos : 0 < x.neighbourhood.den := Nat.two_pow_pos _

theorem neighbourhood_centre :
    (x.neighbourhood.centre / x.neighbourhood.den : ℚ) = 4 * x.significand * 2 ^ (x.exponent - 2) := by
  have back : 2 - x.exponent = -(x.exponent - 2) := by ring
  simp only [neighbourhood, Nat.pow_eq, back]
  push_cast
  rw [mul_div_assoc, zpow_eq_div]

-- The neighbourhood is wider than the step from one multiple to the next.
theorem near_of_fine {p : ℤ}
    (fine : (10 : ℚ) ^ p < (x.quartersBelow + 2) * 2 ^ (x.exponent - 2)) (k : Nat)
    (below : (k * 10 ^ p : ℚ) ≤ 4 * x.significand * 2 ^ (x.exponent - 2))
    (above : (4 * x.significand * 2 ^ (x.exponent - 2) : ℚ) ≤ (k + 1 : ℕ) * 10 ^ p) :
    x.Near (k * 10 ^ p) ∨ x.Near ((k + 1 : ℕ) * 10 ^ p) := by
  have quarter : (0 : ℚ) < 2 ^ (x.exponent - 2) := by positivity
  have quarters : (0 : ℚ) < x.quartersBelow := by
    unfold quartersBelow
    split <;> norm_num
  push_cast at above ⊢
  by_cases low : (4 * x.significand - x.quartersBelow : ℚ) * 2 ^ (x.exponent - 2) < k * 10 ^ p
  · left
    have high : (k * 10 ^ p : ℚ) < (4 * x.significand + 2) * 2 ^ (x.exponent - 2) := by linarith
    exact ⟨low.le, high.le, fun _ => ⟨low, high⟩⟩
  · right
    have high : ((k + 1) * 10 ^ p : ℚ) < (4 * x.significand + 2) * 2 ^ (x.exponent - 2) := by
      linarith
    have low : (4 * x.significand - x.quartersBelow : ℚ) * 2 ^ (x.exponent - 2) <
        (k + 1) * 10 ^ p := by
      have := mul_pos quarters quarter
      linarith
    exact ⟨low.le, high.le, fun _ => ⟨low, high⟩⟩

theorem fine_of_seventeen {power : ℤ}
    (reached : (10 : ℚ) ^ power ≤ 4 * x.significand * 2 ^ (x.exponent - 2)) :
    (10 : ℚ) ^ (power - 16) < (x.quartersBelow + 2) * 2 ^ (x.exponent - 2) := by
  have quarter : (0 : ℚ) < 2 ^ (x.exponent - 2) := by positivity
  -- Where the numbers below lie closer, the significand is the least possible.
  have short : 4 * x.significand < (x.quartersBelow + 2) * 10 ^ 16 := by
    have below : x.significand < 2 * 0x10000000000000 := significand_lt
    unfold quartersBelow
    split
    next first =>
      have : x.significand = 0x10000000000000 := first.1
      omega
    next => omega
  have digits : (4 * x.significand : ℚ) < (x.quartersBelow + 2) * 10 ^ 16 := by
    exact_mod_cast short
  have shift : (10 : ℚ) ^ (power - 16) = 10 ^ power / 10 ^ 16 := zpow_sub₀ (by norm_num) _ _
  rw [shift, div_lt_iff₀ (by norm_num)]
  calc (10 : ℚ) ^ power ≤ 4 * x.significand * 2 ^ (x.exponent - 2) := reached
    _ < (x.quartersBelow + 2) * 10 ^ 16 * 2 ^ (x.exponent - 2) := by gcongr
    _ = (x.quartersBelow + 2) * 2 ^ (x.exponent - 2) * 10 ^ 16 := by ring

theorem centre_between (p : ℤ) :
    let n := x.neighbourhood
    let below := n.centre * 10 ^ (-p).toNat / (n.den * 10 ^ p.toNat)
    (below * 10 ^ p : ℚ) ≤ n.centre / n.den ∧
      (n.centre / n.den : ℚ) ≤ (below + 1 : ℕ) * 10 ^ p := by
  intro n below
  have den : 0 < n.den := neighbourhood_den_pos
  have scale : (0 : ℚ) < n.den := by exact_mod_cast den
  have shift : (0 : ℚ) < 10 ^ (-p).toNat := by positivity
  have low : below * (n.den * 10 ^ p.toNat) ≤ n.centre * 10 ^ (-p).toNat := Nat.div_mul_le_self _ _
  have high : n.centre * 10 ^ (-p).toNat ≤ (n.den * 10 ^ p.toNat) * (below + 1) :=
    (Nat.lt_mul_div_succ _ (by positivity)).le
  rw [← zpow_eq_div p, ← mul_div_assoc, ← mul_div_assoc, div_le_div_iff₀ shift scale,
    div_le_div_iff₀ scale shift]
  constructor
  · have : below * 10 ^ p.toNat * n.den ≤ n.centre * 10 ^ (-p).toNat := by linarith
    exact_mod_cast this
  · have : n.centre * 10 ^ (-p).toNat ≤ (below + 1) * 10 ^ p.toNat * n.den := by linarith
    exact_mod_cast this

theorem exists_onGrid? (nonzero : x.isZero = false) (tie : Tie) :
    ∃ c, x.neighbourhood.onGrid? tie
      (decimalLength x.neighbourhood.centre x.neighbourhood.den - 17) = some c := by
  let n := x.neighbourhood
  have centre : 0 < n.centre := by
    have := significand_pos nonzero
    exact Nat.mul_pos (by omega) (Nat.two_pow_pos _)
  have reached := decimalLength_ge centre (neighbourhood_den_pos (x := x))
  obtain ⟨below, above⟩ := centre_between (x := x) (decimalLength n.centre n.den - 17)
  rw [neighbourhood_centre] at reached below above
  have fine := fine_of_seventeen reached
  have power : decimalLength n.centre n.den - 1 - 16 = decimalLength n.centre n.den - 17 := by ring
  rw [power] at fine
  cases found : n.onGrid? tie (decimalLength n.centre n.den - 17) with
  | some c => exact ⟨c, rfl⟩
  | none =>
    obtain ⟨missed, missedNext⟩ := onGrid?_eq_none found
    rcases near_of_fine fine _ below above with near | near
    · rw [(holds_iff nonzero _ _).mpr near] at missed
      cases missed
    · rw [(holds_iff nonzero _ _).mpr near] at missedNext
      cases missedNext

theorem shortest_near (nonzero : x.isZero = false) (tie : Tie) :
    ∃ q, x.Near q ∧ (x.shortest tie).Denotes q := by
  let n := x.neighbourhood
  let length := decimalLength n.centre n.den
  let candidate (i : Nat) : Option Decimal :=
    (n.onGrid? tie (length - (i + 1 : Nat))).map fun c =>
      Decimal.ofCoefficient c (length - (i + 1 : Nat))
  obtain ⟨d, found⟩ : ∃ d, (List.range 17).findSome? candidate = some d := by
    rw [← Option.isSome_iff_exists, List.findSome?_isSome_iff]
    obtain ⟨c, seventeenth⟩ := exists_onGrid? nonzero tie
    exact ⟨16, by decide, Option.isSome_map.trans (Option.isSome_iff_exists.mpr ⟨c, seventeenth⟩)⟩
  obtain ⟨i, _, written⟩ := List.exists_of_findSome?_eq_some found
  obtain ⟨c, onGrid, rfl⟩ := Option.map_eq_some_iff.mp written
  have near := (holds_iff nonzero _ c).mp (onGrid?_holds onGrid)
  have positive : 0 < c := by
    rw [Nat.pos_iff_ne_zero]
    rintro rfl
    simpa using near.pos nonzero
  refine ⟨_, near, ?_⟩
  have shortest : x.shortest tie = Decimal.ofCoefficient c (length - (i + 1 : Nat)) := by
    change ((List.range 17).findSome? candidate).getD _ = _
    rw [found, Option.getD_some]
  rw [shortest]
  exact Decimal.ofCoefficient_denotes positive _

end Number

end CellLedger
