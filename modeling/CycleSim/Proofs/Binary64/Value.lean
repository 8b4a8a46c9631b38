import Mathlib.Algebra.Order.Field.Power
import Mathlib.Algebra.Order.Field.Rat
import Mathlib.Tactic.NormNum
import CycleSim.Proofs.Binary64.Doubling

/-!
# The numbers that doubles stand for

A finite pattern stands for a dyadic rational, its `value`: a sign times a whole number of units of
`2 ^ (-1074)`, the `magnitude`.  Two finite patterns with one sign and one magnitude are the same
(`eq_of_magnitude`), so a value with a sign has at most one pattern.

The data path of the doubler is exact on these numbers (`double_exact`): as long as twice the value
stays below `2 ^ 1024` it gives the pattern of twice the value, with the sign of the operand, and
from there on the infinity of that sign.
-/

namespace CycleSim.Binary64

/-- The rational number that the fields of a pattern stand for: a mantissa in units of `2 ^ (-1074)`
under exponent 0, and under any other exponent a mantissa with one more bit in front. -/
def value (x : Binary64) : ℚ :=
  let size : ℚ := if x.exponent = 0 then x.mantissa.toNat * 2 ^ (-1074 : ℤ)
    else (2 ^ 52 + x.mantissa.toNat) * 2 ^ ((x.exponent.toNat : ℤ) - 1075)
  if x.isNegative then -size else size

variable {x y : Binary64}

/-! ### Magnitudes -/

/-- The exponent field is not 0 if it is not as a number. -/
lemma exponent_ne_zero_iff : x.exponent ≠ 0 ↔ 0 < x.exponent.toNat := by
  rw [Ne, exponent_eq_iff]
  exact Nat.pos_iff_ne_zero.symm

/-- The exponent field bounds the magnitude from above. -/
lemma magnitude_lt (x : Binary64) : x.magnitude < 2 ^ (52 + x.exponent.toNat) := by
  have bound := x.toNat_mantissa_lt
  rw [magnitude_eq]
  split
  · rename_i zero
    rw [exponent_eq_iff.mp zero]
    exact bound
  · rename_i normal
    obtain ⟨e, eq⟩ := Nat.exists_eq_add_one_of_ne_zero (exponent_ne_zero_iff.mp normal).ne'
    rw [eq, Nat.add_sub_cancel, show 52 + (e + 1) = 53 + e by omega, pow_add]
    exact Nat.mul_lt_mul_of_pos_right (by omega) (Nat.two_pow_pos e)

/-- The exponent field bounds the magnitude from below, unless it is 0. -/
lemma le_magnitude (normal : 0 < x.exponent.toNat) :
    2 ^ (51 + x.exponent.toNat) ≤ x.magnitude := by
  obtain ⟨e, eq⟩ := Nat.exists_eq_add_one_of_ne_zero normal.ne'
  rw [magnitude_eq, if_neg (exponent_ne_zero_iff.mpr normal), eq, Nat.add_sub_cancel,
    show 51 + (e + 1) = 52 + e by omega, pow_add]
  exact Nat.mul_le_mul_right _ (Nat.le_add_right _ _)

/-- The exponent field tells below which powers of two the magnitude is. -/
lemma magnitude_lt_two_pow_iff {e : ℕ} : x.magnitude < 2 ^ (52 + e) ↔ x.exponent.toNat ≤ e := by
  constructor
  · intro lt
    by_contra above
    have least : 2 ^ (52 + e) ≤ x.magnitude :=
      (Nat.pow_le_pow_right two_pos (by omega)).trans (le_magnitude (by omega))
    exact absurd lt (not_lt.mpr least)
  · intro le
    exact x.magnitude_lt.trans_le (Nat.pow_le_pow_right two_pos (by omega))

/-- A pattern with a smaller exponent field has a smaller magnitude. -/
lemma magnitude_lt_of_exponent_lt (lt : x.exponent.toNat < y.exponent.toNat) :
    x.magnitude < y.magnitude := by
  have above : ¬y.magnitude < 2 ^ (52 + x.exponent.toNat) := by
    rw [magnitude_lt_two_pow_iff]
    omega
  exact x.magnitude_lt.trans_le (not_lt.mp above)

/-- Patterns with one sign and one magnitude are the same. -/
theorem eq_of_magnitude (sign : x.sign = y.sign) (same : x.magnitude = y.magnitude) : x = y := by
  have exponent : x.exponent.toNat = y.exponent.toNat := by
    rcases Nat.lt_trichotomy x.exponent.toNat y.exponent.toNat with lt | eq | gt
    · exact absurd same (magnitude_lt_of_exponent_lt lt).ne
    · exact eq
    · exact absurd same (magnitude_lt_of_exponent_lt gt).ne'
  have mantissa : x.mantissa.toNat = y.mantissa.toNat := by
    have field : x.exponent = y.exponent := exponent_eq_iff.mpr exponent
    rw [magnitude_eq, magnitude_eq, field] at same
    split at same
    · exact same
    · exact Nat.add_left_cancel (Nat.eq_of_mul_eq_mul_right (Nat.two_pow_pos _) same)
  exact eq_iff_fields.mpr ⟨sign, exponent, mantissa⟩

/-! ### Values -/

/-- The least positive double, in units of which every double is a whole number. -/
def leastPositive : ℚ :=
  2 ^ (-1074 : ℤ)

/-- The least positive double is positive. -/
lemma leastPositive_pos : 0 < leastPositive :=
  zpow_pos two_pos _

/-- So many powers of two in units of the least positive double. -/
lemma two_pow_mul_leastPositive (n : ℕ) :
    (2 ^ n : ℕ) * leastPositive = 2 ^ ((n : ℤ) - 1074) := by
  rw [leastPositive, Nat.cast_pow, Nat.cast_ofNat, ← zpow_natCast, ← zpow_add₀ two_ne_zero]
  rfl

/-- A value is a signed number of units. -/
lemma value_eq (x : Binary64) :
    x.value = (if x.isNegative then -1 else 1) * (x.magnitude * leastPositive) := by
  have size : (if x.exponent = 0 then (x.mantissa.toNat : ℚ) * 2 ^ (-1074 : ℤ)
      else (2 ^ 52 + x.mantissa.toNat) * 2 ^ ((x.exponent.toNat : ℤ) - 1075)) =
      x.magnitude * leastPositive := by
    rw [magnitude_eq]
    split
    · rfl
    · rename_i normal
      obtain ⟨e, eq⟩ := Nat.exists_eq_add_one_of_ne_zero (exponent_ne_zero_iff.mp normal).ne'
      have power : ((e + 1 : ℕ) : ℤ) - 1075 = (e : ℤ) - 1074 := by omega
      rw [eq, Nat.add_sub_cancel, power, Nat.cast_mul, mul_assoc, two_pow_mul_leastPositive]
      push_cast
      rfl
  rw [value]
  simp only [size]
  split
  · rw [neg_one_mul]
  · rw [one_mul]

/-- Twice the absolute value of a pattern is twice its magnitude in units. -/
lemma abs_two_mul_value (x : Binary64) :
    |2 * x.value| = (2 * x.magnitude : ℕ) * leastPositive := by
  have sign : |(if x.isNegative then -1 else 1 : ℚ)| = 1 := by
    split <;> simp
  have size : 0 ≤ x.magnitude * leastPositive :=
    mul_nonneg (Nat.cast_nonneg _) leastPositive_pos.le
  rw [value_eq, abs_mul, abs_mul, sign, abs_of_nonneg size, one_mul, abs_two, Nat.cast_mul,
    mul_assoc]
  rfl

/-- Twice a value stays below `2 ^ 1024` up to the last exponent but one of a number. -/
lemma abs_two_mul_value_lt_iff : |2 * x.value| < 2 ^ 1024 ↔ x.exponent.toNat < 2046 := by
  have units : (2 : ℚ) ^ 1024 = (2 * 2 ^ (52 + 2045) : ℕ) * leastPositive := by
    rw [← pow_succ', two_pow_mul_leastPositive, ← zpow_natCast]
    rfl
  rw [abs_two_mul_value, units, mul_lt_mul_iff_left₀ leastPositive_pos, Nat.cast_lt,
    Nat.mul_lt_mul_left two_pos, magnitude_lt_two_pow_iff]
  exact Nat.lt_succ_iff.symm

/-! ### Doubling -/

/-- The fields of a pattern that has the sign of another and a given number below the sign bit. -/
lemma fields_of_toNat_bits {place : ℕ} (bits : y.bits.toNat = x.sign.toNat + place)
    (lt : place < 2 ^ 63) :
    y.sign = x.sign ∧ y.exponent.toNat = place / 2 ^ 52 ∧ y.mantissa.toNat = place % 2 ^ 52 := by
  refine ⟨UInt64.toNat_inj.mp ?_, ?_, ?_⟩
  · rw [toNat_sign, bits]
    rcases x.sign_eq_zero_or with plus | minus <;> omega
  · rw [toNat_exponent, bits]
    rcases x.sign_eq_zero_or with plus | minus <;> omega
  · rw [toNat_mantissa, bits]
    rcases x.sign_eq_zero_or with plus | minus <;> omega

/-- Twice a number that does not overflow is a number with the same sign and twice the
magnitude. -/
lemma double_of_lt (lt : x.exponent.toNat < 2046) :
    x.double.isFinite = true ∧ x.double.sign = x.sign ∧
      x.double.magnitude = 2 * x.magnitude := by
  have bound := x.toNat_mantissa_lt
  have finite : x.isFinite = true := isFinite_iff.mpr (by omega)
  obtain ⟨sign, exponent, mantissa⟩ :=
    fields_of_toNat_bits (x.toNat_double finite) x.doubledPlace_lt
  have mask : exponentMask.toNat = 2047 * 2 ^ 52 := rfl
  rw [doubledPlace, mask] at exponent mantissa
  rw [isFinite_iff, magnitude_eq, magnitude_eq]
  by_cases zero : x.exponent = 0
  · rw [if_pos zero, min_eq_left (by omega)] at exponent mantissa
    refine ⟨by omega, sign, ?_⟩
    rw [if_pos zero]
    -- A mantissa with its top bit set moves on to exponent 1, where the bit is implied.
    by_cases carry : x.double.exponent = 0
    · have field : x.double.exponent.toNat = 0 := exponent_eq_iff.mp carry
      rw [if_pos carry, mantissa]
      exact Nat.mod_eq_of_lt (by omega)
    · have field := exponent_ne_zero_iff.mp carry
      have one : x.double.exponent.toNat = 1 := by omega
      rw [if_neg carry, one, Nat.sub_self, pow_zero, Nat.mul_one]
      omega
  · have pos := exponent_ne_zero_iff.mp zero
    rw [if_neg zero, min_eq_left (by omega)] at exponent mantissa
    have next : x.double.exponent.toNat = x.exponent.toNat + 1 := by omega
    have same : x.double.mantissa.toNat = x.mantissa.toNat := by omega
    refine ⟨by omega, sign, ?_⟩
    rw [if_neg (exponent_ne_zero_iff.mpr (by omega)), if_neg zero, next, same, Nat.add_sub_cancel]
    obtain ⟨e, eq⟩ := Nat.exists_eq_add_one_of_ne_zero pos.ne'
    rw [eq, Nat.add_sub_cancel, pow_succ]
    ring

/-- Twice a number with the last exponent is the infinity of its sign. -/
lemma double_of_last (last : x.exponent.toNat = 2046) :
    x.double.isInfinite = true ∧ x.double.sign = x.sign := by
  have finite : x.isFinite = true := isFinite_iff.mpr (by omega)
  obtain ⟨sign, exponent, mantissa⟩ :=
    fields_of_toNat_bits (x.toNat_double finite) x.doubledPlace_lt
  have mask : exponentMask.toNat = 2047 * 2 ^ 52 := rfl
  have zero : x.exponent ≠ 0 := exponent_ne_zero_iff.mpr (by omega)
  rw [doubledPlace, if_neg zero, min_eq_right (by omega), mask] at exponent mantissa
  refine ⟨?_, sign⟩
  rw [isInfinite, Bool.and_eq_true, beq_iff_eq, beq_iff_eq, exponent_eq_iff, exponent,
    ← UInt64.toNat_inj, mantissa]
  exact ⟨rfl, rfl⟩

/-- The normal class holds the patterns between the least and the last exponent of a number. -/
lemma classify_eq_normal_iff :
    x.classify = .normal ↔ 0 < x.exponent.toNat ∧ x.exponent.toNat < 2046 :=
  classify_eq_iff

/-- Patterns of one sign are negative together. -/
lemma isNegative_eq_of_sign (sign : x.sign = y.sign) : x.isNegative = y.isNegative := by
  rw [isNegative, isNegative, sign]

/-- Patterns of one sign and one value are the same. -/
lemma eq_of_value (sign : x.sign = y.sign) (same : x.value = y.value) : x = y := by
  have signed : (if y.isNegative then -1 else 1 : ℚ) ≠ 0 := by
    split <;> norm_num
  rw [value_eq, value_eq, isNegative_eq_of_sign sign] at same
  have magnitude := mul_right_cancel₀ leastPositive_pos.ne' (mul_left_cancel₀ signed same)
  exact eq_of_magnitude sign (Nat.cast_injective magnitude)

/-- The data path of the doubler multiplies by two exactly, on every pattern.  A number whose double
has an absolute value below `2 ^ 1024` becomes the one finite pattern with its sign and twice its
value; any other number becomes the infinity of its sign, and infinities and not-a-numbers stay as
they are.  The addition by which the data path moves a normal number to the next exponent carries
neither into the sign bit nor out of the word. -/
theorem double_exact (x : Binary64) :
    (x.isFinite = true → |2 * x.value| < 2 ^ 1024 →
      x.double.isFinite = true ∧ x.double.sign = x.sign ∧ x.double.value = 2 * x.value ∧
        ∀ y : Binary64, y.isFinite = true → y.sign = x.sign → y.value = 2 * x.value →
          y = x.double) ∧
    (x.isFinite = true → 2 ^ 1024 ≤ |2 * x.value| →
      x.double.isInfinite = true ∧ x.double.sign = x.sign) ∧
    (x.isFinite = false → x.double = x) ∧
    (x.classify = .normal →
      x.double.bits.toNat = x.bits.toNat + 2 ^ 52 ∧
        x.bits.toNat % 2 ^ 63 + 2 ^ 52 < 2 ^ 63 ∧ x.bits.toNat + 2 ^ 52 < 2 ^ 64) := by
  refine ⟨?_, ?_, ?_, ?_⟩
  · intro finite small
    obtain ⟨finite', sign, magnitude⟩ := double_of_lt (abs_two_mul_value_lt_iff.mp small)
    have value : x.double.value = 2 * x.value := by
      rw [value_eq, value_eq, isNegative_eq_of_sign sign, magnitude]
      push_cast
      ring
    refine ⟨finite', sign, value, fun y _ sign' value' => ?_⟩
    exact eq_of_value (sign'.trans sign.symm) (value'.trans value.symm)
  · intro finite large
    have below := isFinite_iff.mp finite
    have last := mt abs_two_mul_value_lt_iff.mpr (not_lt.mpr large)
    exact double_of_last (by omega)
  · intro infinite
    have top : x.exponent = maxExponent := by
      simpa [isFinite] using infinite
    rw [double, top, if_neg (by decide), if_pos rfl]
  · intro normal
    obtain ⟨pos, lt⟩ := classify_eq_normal_iff.mp normal
    have finite : x.isFinite = true := isFinite_iff.mpr (by omega)
    have bits := x.toNat_bits
    have bound := x.toNat_mantissa_lt
    have mask : exponentMask.toNat = 2047 * 2 ^ 52 := rfl
    have doubled := x.toNat_double finite
    rw [doubledPlace, if_neg (exponent_ne_zero_iff.mpr pos), min_eq_left (by omega)] at doubled
    rcases x.sign_eq_zero_or with plus | minus <;> omega

/-- The greatest denormal. -/
def greatestDenormal : Binary64 :=
  ⟨0x000fffffffffffff⟩

/-- The negative number with the last exponent whose double is a number, and no mantissa. -/
def lastDoubled : Binary64 :=
  ⟨0xffd0000000000000⟩

/-- The double of the greatest denormal is a normal number with twice its value.  The double of
`lastDoubled` is a number too, and the double of that is negative infinity. -/
theorem double_exact_carried :
    (greatestDenormal.double = ⟨0x001ffffffffffffe⟩ ∧
      greatestDenormal.double.value = 2 * greatestDenormal.value) ∧
    lastDoubled.double.bits.toNat = lastDoubled.bits.toNat + 2 ^ 52 ∧
    (lastDoubled.double.double.isInfinite = true ∧
      lastDoubled.double.double.sign = lastDoubled.double.sign) := by
  refine ⟨⟨by decide, ?_⟩, ?_, ?_⟩
  · have small : |2 * greatestDenormal.value| < 2 ^ 1024 :=
      abs_two_mul_value_lt_iff.mpr (by decide)
    obtain ⟨exact, -⟩ := double_exact greatestDenormal
    exact (exact (by decide) small).2.2.1
  · obtain ⟨-, -, -, normal⟩ := double_exact lastDoubled
    exact (normal (by decide)).1
  · have finite : lastDoubled.double.isFinite = true := by decide
    have large : 2 ^ 1024 ≤ |2 * lastDoubled.double.value| :=
      not_lt.mp (mt abs_two_mul_value_lt_iff.mp (by decide))
    obtain ⟨-, overflow, -⟩ := double_exact lastDoubled.double
    exact overflow finite large

end CycleSim.Binary64
