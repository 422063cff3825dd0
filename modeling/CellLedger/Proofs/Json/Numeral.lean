import CellLedger.Proofs.Json.Reading
import CellLedger.Proofs.Number.Shortest

/-!
The numeral of a finite number follows the grammar and is read as the same number
(`number?_ofNumber`): all four layouts stand for the shortest decimal, which lies near the number.
-/

set_option autoImplicit false

namespace CellLedger

namespace Number

variable {x : Number} {q : ℚ}

theorem Near.lt_high (near : x.Near q) (finite : x.isFinite = true) : q < 10 ^ (310 : ℤ) := by
  have significand : (4 * x.significand + 2 : ℚ) ≤ 2 ^ 55 := by
    have below : x.significand < 2 * 0x10000000000000 := significand_lt
    exact_mod_cast (by omega : 4 * x.significand + 2 ≤ 2 ^ 55)
  have exponent : (2 : ℚ) ^ (x.exponent - 2) ≤ 2 ^ (970 : ℤ) :=
    zpow_le_zpow_right₀ (by norm_num) (by linarith [exponent_le finite])
  calc q ≤ (4 * x.significand + 2) * 2 ^ (x.exponent - 2) := near.high
    _ ≤ 2 ^ 55 * 2 ^ (970 : ℤ) := by gcongr
    _ = (2 ^ (205 : ℤ)) ^ (5 : ℤ) := by
        rw [← zpow_mul, ← zpow_natCast, ← zpow_add₀ (by norm_num)]
        rfl
    _ < (10 ^ (62 : ℤ)) ^ (5 : ℤ) := zpow_lt_zpow_left₀ (by norm_num) (by norm_num) (by norm_num)
    _ = 10 ^ (310 : ℤ) := (zpow_mul ..).symm

theorem Near.low_lt (near : x.Near q) (nonzero : x.isZero = false) : 10 ^ (-330 : ℤ) < q := by
  have significand : (2 : ℚ) ≤ 4 * x.significand - x.quartersBelow := by
    have : (1 : ℚ) ≤ x.significand := by exact_mod_cast significand_pos nonzero
    linarith [quartersBelow_le (x := x)]
  have exponent : (2 : ℚ) ^ (-1078 : ℤ) ≤ 2 ^ (x.exponent - 2) :=
    zpow_le_zpow_right₀ (by norm_num) (by linarith [exponent_ge (x := x)])
  calc (10 : ℚ) ^ (-330 : ℤ) = (10 ^ (-30 : ℤ)) ^ (11 : ℤ) := by rw [← zpow_mul]; rfl
    _ < (2 ^ (-98 : ℤ)) ^ (11 : ℤ) := zpow_lt_zpow_left₀ (by norm_num) (by norm_num) (by norm_num)
    _ = 2 ^ (-1078 : ℤ) := by rw [← zpow_mul]; rfl
    _ ≤ (4 * x.significand - x.quartersBelow) * 2 ^ (x.exponent - 2) := by
        have : (0 : ℚ) < 2 ^ (x.exponent - 2) := by positivity
        nlinarith
    _ ≤ q := near.low

-- No number is so large or small that a decimal near it is settled by its length alone.
theorem ofDecimal_near (finite : x.isFinite = true) (nonzero : x.isZero = false) {c : Nat} {p : ℤ}
    (near : x.Near (c * 10 ^ p)) : ofDecimal x.negative c p = x := by
  have positive := near.pos nonzero
  have coefficient : 0 < c := by
    rw [Nat.pos_iff_ne_zero]
    rintro rfl
    simp at positive
  let digits := (Nat.toDigits 10 c).length
  have one : 0 < digits := Nat.length_toDigits_pos
  have scale : (0 : ℚ) < 10 ^ p := by positivity
  have above : -330 < digits + p := by
    have : (c * 10 ^ p : ℚ) < 10 ^ (digits + p) := by
      rw [zpow_add₀ (by norm_num), zpow_natCast]
      gcongr
      exact_mod_cast lt_pow_length c
    exact (zpow_lt_zpow_iff_right₀ (by norm_num)).mp ((near.low_lt nonzero).trans this)
  have below : digits - 1 + p < 310 := by
    have : (10 : ℚ) ^ (digits - 1 + p) ≤ c * 10 ^ p := by
      rw [zpow_add₀ (by norm_num), ← Nat.cast_one, ← Nat.cast_sub one, zpow_natCast]
      gcongr
      exact_mod_cast pow_length_le coefficient
    exact (zpow_lt_zpow_iff_right₀ (by norm_num)).mp (this.trans_lt (near.lt_high finite))
  have quotient : ((c * 10 ^ p.toNat : ℕ) : ℚ) / (10 ^ (-p).toNat : ℕ) = c * 10 ^ p := by
    push_cast
    rw [mul_div_assoc, zpow_eq_div]
  have magnitude : nearestMagnitude (c * 10 ^ p.toNat) (10 ^ (-p).toNat) = x.magnitude :=
    nearestMagnitude_of_near finite nonzero (by positivity) (by positivity) (by rwa [quotient])
  have range : ¬ (c = 0 ∨ digits + p < -330) ∧ ¬ 310 < digits + p := by omega
  simp only [ofDecimal]
  rw [if_neg range.1, if_neg range.2, nearest, Nat.pow_eq, Nat.pow_eq, magnitude,
    ofMagnitude_magnitude]

end Number

namespace Numeral

variable (negative : Bool) {d : Decimal}

/-- What the digits before and after the point stand for together. -/
def coefficient (n : Numeral) : Nat := Nat.ofDigitChars 10 (n.whole ++ n.fraction) 0

def power (n : Numeral) : Int := n.exponent.getD 0 - n.fraction.length

-- Of the zeros that a layout adds only those after the digits count.
theorem ofDecimal_layout (nonempty : d.digits ≠ []) :
    ∃ k : ℕ, (ofDecimal negative d).coefficient = 10 ^ k * Nat.ofDigitChars 10 d.digits 0 ∧
      (ofDecimal negative d).power = d.exponent - k := by
  have length := List.length_pos_iff.mpr nonempty
  simp only [ofDecimal]
  split_ifs with large within small
  · refine ⟨d.exponent.toNat + 1, ?_, ?_⟩
    · have zeros : List.replicate d.exponent.toNat '0' ++ ['0'] =
          List.replicate (d.exponent.toNat + 1) '0' := List.replicate_succ'.symm
      rw [coefficient, List.append_assoc, zeros, Nat.ofDigitChars_append,
        Nat.ofDigitChars_replicate_zero]
    · simp [power]
      omega
  · refine ⟨0, ?_, ?_⟩
    · simp [coefficient]
    · simp [power]
      omega
  · refine ⟨0, ?_, ?_⟩
    · have zeros : ['0'] ++ List.replicate (-(d.digits.length + d.exponent)).toNat '0' =
          List.replicate ((-(d.digits.length + d.exponent)).toNat + 1) '0' := rfl
      rw [coefficient, ← List.append_assoc, zeros, Nat.ofDigitChars_append,
        Nat.ofDigitChars_replicate_zero]
      simp
    · simp [power]
      omega
  · refine ⟨0, ?_, ?_⟩
    · simp [coefficient, -List.drop_one]
    · simp [power]
      omega

theorem ofDecimal_value {q : ℚ} (denotes : d.Denotes q) :
    ((ofDecimal negative d).coefficient * 10 ^ (ofDecimal negative d).power : ℚ) = q := by
  obtain ⟨k, coefficient, power⟩ := ofDecimal_layout negative denotes.nonempty
  rw [coefficient, power, ← denotes.value, zpow_sub₀ (by norm_num), zpow_natCast]
  push_cast
  field_simp

theorem negative_ofDecimal : (ofDecimal negative d).negative = negative := by
  simp only [ofDecimal]
  split_ifs <;> rfl

theorem WellFormed.ofDecimal {q : ℚ} (denotes : d.Denotes q) :
    (Numeral.ofDecimal negative d).WellFormed := by
  obtain ⟨nonempty, digits, leading, _⟩ := denotes
  have length := List.length_pos_iff.mpr nonempty
  have zeros (k : Nat) : ∀ c ∈ List.replicate k '0', c.isDigit = true := by
    intro c member
    rw [List.eq_of_mem_replicate member]
    rfl
  have taken {k : Nat} (some : 0 < k) (fraction : List Char)
      (all : ∀ c ∈ fraction, c.isDigit = true) (exponent : Option Int) :
      Numeral.WellFormed ⟨negative, d.digits.take k, fraction, exponent⟩ := by
    constructor
    · rw [ne_eq, List.take_eq_nil_iff]
      exact fun none => none.elim some.ne' nonempty
    · exact fun c member => digits c (List.mem_of_mem_take member)
    · intro zero
      rw [List.head?_take, if_neg some.ne'] at zero
      exact absurd zero leading
    · exact all
  have dropped (k : Nat) : ∀ c ∈ d.digits.drop k, c.isDigit = true :=
    fun c member => digits c (List.mem_of_mem_drop member)
  simp only [Numeral.ofDecimal]
  split_ifs with large within small
  · constructor
    · simp [nonempty]
    · exact fun c member => (List.mem_append.mp member).elim (digits c) (zeros _ c)
    · intro zero
      rw [List.head?_append_of_ne_nil _ nonempty] at zero
      exact absurd zero leading
    · exact zeros 1
  · exact taken (by omega) _ (dropped _) _
  · constructor
    · simp
    · exact zeros 1
    · exact fun _ => rfl
    · exact fun c member => (List.mem_append.mp member).elim (zeros _ c) (digits c)
  · exact taken Nat.one_pos _ (dropped _) _

theorem WellFormed.ofNumber (x : Number) : (Numeral.ofNumber x).WellFormed := by
  simp only [Numeral.ofNumber]
  split
  · exact ⟨by simp, by simp, fun _ => rfl, by simp⟩
  next nonzero =>
    obtain ⟨q, _, denotes⟩ := Number.shortest_near (Bool.eq_false_iff.mpr nonzero) .even
    exact .ofDecimal x.negative denotes

theorem WellFormed.natural (n : Nat) :
    WellFormed ⟨false, Nat.toDigits 10 n, [], none⟩ where
  nonempty := Nat.toDigits_ne_nil
  whole _ member := Nat.isDigit_of_mem_toDigits (by decide) (by decide) member
  leading zero := by
    rcases Nat.eq_zero_or_pos n with rfl | positive
    · rfl
    · exact absurd zero (toDigits_head positive)
  fraction := by simp

theorem number?_ofNumber {x : Number} (finite : x.isFinite = true) :
    (ofNumber x).number? = some x := by
  have read : Number.ofDecimal (ofNumber x).negative (ofNumber x).coefficient (ofNumber x).power =
      x := by
    cases zero : x.isZero with
    | true =>
      have magnitude : x.magnitude = 0 := of_decide_eq_true zero
      have nothing : Number.ofDecimal x.negative 0 (-1) = x := by
        rw [Number.ofDecimal, if_pos (.inl rfl), ← magnitude, Number.ofMagnitude_magnitude]
      rw [ofNumber, if_pos zero]
      exact nothing
    | false =>
      obtain ⟨q, near, denotes⟩ := Number.shortest_near zero .even
      rw [← ofDecimal_value x.negative denotes] at near
      simpa [ofNumber, zero, negative_ofDecimal] using Number.ofDecimal_near finite zero near
  simp only [coefficient, power] at read
  simp only [number?, read, finite, if_true]

end Numeral

end CellLedger
