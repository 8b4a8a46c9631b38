import Mathlib.Tactic.Ring
import Mathlib.Tactic.SplitIfs
import CycleSim.Binary64.Doubling
import CycleSim.Proofs.Binary64.Fields

/-!
# The data path computes the product

The doubling of patterns and the rounded arithmetic product by 2 are the same function.  On numbers
both give the sign of the operand and the pattern `doubledPlace`: a mantissa shift for exponent 0,
one exponent more for the others, and no more than the pattern of infinity.  Twice a double always
lies on the grid, so no product is rounded.  The classes of operands are ranges of the exponent and
mantissa fields (`classify_eq_iff`).
-/

namespace CycleSim

/-- An exact quotient is not rounded. -/
lemma roundQuotient_mul (tie : Tie) (quotient : ℕ) {den : ℕ} (pos : 0 < den) :
    roundQuotient tie (quotient * den) den = quotient := by
  have exact : quotient * den % den = 0 := Nat.mul_mod_left _ _
  simp only [roundQuotient, exact, Nat.mul_div_cancel _ pos, Nat.mul_zero, pos, if_true]
  simp

namespace Binary64

variable (x : Binary64)

/-- The pattern of twice the magnitude of a number. -/
def doubledPlace : ℕ :=
  min (if x.exponent = 0 then 2 * x.mantissa.toNat
    else 2 ^ 52 * (x.exponent.toNat + 1) + x.mantissa.toNat) exponentMask.toNat

/-- The doubled magnitude leaves the sign bit free. -/
lemma doubledPlace_lt : x.doubledPlace < 2 ^ 63 :=
  lt_of_le_of_lt (min_le_right _ _) (by decide)

/-! ### The product -/

/-- The grid is finest up to the first `2 ^ 53` units. -/
lemma spacing_of_lt {units : ℕ} (lt : units < 2 ^ 53) : spacing units = 0 := by
  rw [spacing_eq, if_pos lt]

/-- Numbers of `53 + e` binary digits lie on a grid of width `2 ^ e`. -/
lemma spacing_scaled {significand : ℕ} (low : 2 ^ 52 ≤ significand) (high : significand < 2 ^ 53)
    {e : ℕ} (pos : 0 < e) : spacing (significand * 2 ^ e) = e := by
  have least : 2 ^ (52 + e) ≤ significand * 2 ^ e := by
    rw [pow_add]
    exact Nat.mul_le_mul_right _ low
  have greatest : significand * 2 ^ e < 2 ^ (52 + e + 1) := by
    rw [show 52 + e + 1 = 53 + e by omega, pow_add]
    exact Nat.mul_lt_mul_of_pos_right high (Nat.two_pow_pos e)
  have large : ¬significand * 2 ^ e < 2 ^ 53 :=
    not_lt.mpr ((Nat.pow_le_pow_right two_pos (by omega)).trans least)
  have log : (significand * 2 ^ e).log2 = 52 + e :=
    (Nat.log2_eq_iff (by omega)).mpr ⟨least, greatest⟩
  rw [spacing_eq, if_neg large, log]
  omega

/-- Twice the magnitude of a number with exponent 0 stands on the finest grid. -/
lemma toNat_nearest_of_zero (zero : x.exponent = 0) :
    (nearest (2 * x.magnitude) 1).bits.toNat = x.doubledPlace := by
  have bound := x.toNat_mantissa_lt
  have exact := roundQuotient_mul .toEven (2 * x.mantissa.toNat) one_pos
  rw [nearest_eq, magnitude_eq, if_pos zero, Nat.div_one, spacing_of_lt (by omega), doubledPlace,
    if_pos zero]
  simp only [Nat.zero_mul, Nat.zero_add, pow_zero, Nat.mul_one] at exact ⊢
  rw [exact, UInt64.toNat_ofNat']
  exact Nat.mod_eq_of_lt (lt_of_le_of_lt (min_le_right _ _) (by decide))

/-- Twice the magnitude of a number with a positive exponent has the next exponent. -/
lemma toNat_nearest_of_ne_zero (normal : x.exponent ≠ 0) :
    (nearest (2 * x.magnitude) 1).bits.toNat = x.doubledPlace := by
  have bound := x.toNat_mantissa_lt
  have pos : 0 < x.exponent.toNat :=
    Nat.pos_of_ne_zero fun zero => normal (exponent_eq_iff.mpr zero)
  have twice : 2 * x.magnitude = (2 ^ 52 + x.mantissa.toNat) * 2 ^ x.exponent.toNat := by
    obtain ⟨e, eq⟩ := Nat.exists_eq_add_one_of_ne_zero pos.ne'
    rw [magnitude_eq, if_neg normal, eq, Nat.add_sub_cancel, pow_succ]
    ring
  have place : x.exponent.toNat * 2 ^ 52 + (2 ^ 52 + x.mantissa.toNat) =
      2 ^ 52 * (x.exponent.toNat + 1) + x.mantissa.toNat := by
    ring
  rw [nearest_eq, twice, Nat.div_one, spacing_scaled (by omega) (by omega) pos, Nat.one_mul,
    roundQuotient_mul _ _ (Nat.two_pow_pos _), doubledPlace, if_neg normal]
  simp only [place]
  rw [UInt64.toNat_ofNat']
  exact Nat.mod_eq_of_lt (lt_of_le_of_lt (min_le_right _ _) (by decide))

/-- The product of a number by 2 is its sign with the doubled magnitude. -/
lemma toNat_timesTwo (finite : x.isFinite = true) :
    x.timesTwo.bits.toNat = x.sign.toNat + x.doubledPlace := by
  have place : (nearest (2 * x.magnitude) 1).bits.toNat = x.doubledPlace := by
    by_cases zero : x.exponent = 0
    · exact x.toNat_nearest_of_zero zero
    · exact x.toNat_nearest_of_ne_zero zero
  rw [timesTwo, if_pos finite, toNat_withSign (place ▸ x.doubledPlace_lt), place]

/-! ### The data path -/

/-- The shift of a denormal keeps its sign and doubles its mantissa. -/
lemma toNat_shifted (zero : x.exponent = 0) :
    ((x.bits <<< 1) &&& ~~~signMask).toNat = 2 * x.mantissa.toNat := by
  have none : x.bits.toNat / 2 ^ 52 % 2 ^ 11 = 0 := by
    rw [← toNat_exponent, zero]
    rfl
  have low := Nat.and_two_pow_sub_one_eq_mod (x.bits.toNat <<< 1 % 2 ^ 64) 63
  rw [UInt64.toNat_and, UInt64.toNat_shiftLeft, toNat_mantissa]
  refine low.trans ?_
  rw [Nat.shiftLeft_eq]
  omega

/-- Twice a number on the bit pattern is its sign with the doubled magnitude. -/
lemma toNat_double (finite : x.isFinite = true) :
    x.double.bits.toNat = x.sign.toNat + x.doubledPlace := by
  have bound := x.toNat_mantissa_lt
  have below := isFinite_iff.mp finite
  have bits := x.toNat_bits
  unfold double doubledPlace
  have mask : exponentMask.toNat = 2047 * 2 ^ 52 := rfl
  have top : ¬x.exponent = maxExponent := by
    rw [exponent_eq_iff]
    exact below.ne
  by_cases zero : x.exponent = 0
  · have shifted := x.toNat_shifted zero
    rw [if_pos zero, if_pos zero, toNat_sign_or (by omega), shifted, min_eq_left (by omega)]
  · rw [if_neg zero, if_neg top, if_neg zero]
    by_cases last : x.exponent = maxExponent - 1
    · have field : x.exponent.toNat = 2046 := exponent_eq_iff.mp last
      rw [if_pos last, infinityLike, toNat_sign_or (by decide), min_eq_right (by omega)]
    · have field : x.exponent.toNat ≠ 2046 := fun eq => last (exponent_eq_iff.mpr eq)
      have unit : (0x0010000000000000 : UInt64).toNat = 2 ^ 52 := rfl
      rw [if_neg last, min_eq_left (by omega), UInt64.toNat_add, unit]
      rcases x.sign_eq_zero_or with plus | minus <;> omega

/-! ### Both are the same -/

/-- The data path computes the arithmetic product by 2, on every pattern. -/
theorem double_eq_timesTwo : x.double = x.timesTwo := by
  by_cases finite : x.isFinite = true
  · exact ext_toNat ((x.toNat_double finite).trans (x.toNat_timesTwo finite).symm)
  · have top : x.exponent = maxExponent := by
      simpa [isFinite] using finite
    rw [timesTwo, if_neg finite, double, top, if_neg (by decide), if_pos rfl]

/-! ### Classes -/

/-- The exponents and mantissas of the patterns of a class. -/
def Class.Spans (exponent mantissa : ℕ) : Class → Prop
  | .zero => exponent = 0 ∧ mantissa = 0
  | .denormal => exponent = 0 ∧ 0 < mantissa
  | .normal => 0 < exponent ∧ exponent < 2046
  | .overflow => exponent = 2046
  | .infinity => exponent = 2047 ∧ mantissa = 0
  | .nan => exponent = 2047 ∧ 0 < mantissa

/-- A pattern belongs to the class that its fields tell. -/
lemma spans_classify : x.classify.Spans x.exponent.toNat x.mantissa.toNat := by
  have bound := x.toNat_exponent_lt
  have zero : x.exponent = 0 ↔ x.exponent.toNat = 0 := exponent_eq_iff
  have top : x.exponent = maxExponent ↔ x.exponent.toNat = 2047 := exponent_eq_iff
  have last : x.exponent = maxExponent - 1 ↔ x.exponent.toNat = 2046 := exponent_eq_iff
  have none : x.mantissa = 0 ↔ x.mantissa.toNat = 0 := UInt64.toNat_inj.symm
  unfold classify
  split_ifs with isZero noMantissa isTop noMantissa isLast
  · exact ⟨zero.mp isZero, none.mp noMantissa⟩
  · exact ⟨zero.mp isZero, Nat.pos_of_ne_zero (mt none.mpr noMantissa)⟩
  · exact ⟨top.mp isTop, none.mp noMantissa⟩
  · exact ⟨top.mp isTop, Nat.pos_of_ne_zero (mt none.mpr noMantissa)⟩
  · exact last.mp isLast
  · rw [zero] at isZero
    rw [top] at isTop
    rw [last] at isLast
    exact ⟨by omega, by omega⟩

/-- No fields belong to two classes. -/
lemma Class.Spans.unique {exponent mantissa : ℕ} {c d : Class} (first : c.Spans exponent mantissa)
    (second : d.Spans exponent mantissa) : c = d := by
  cases c <;> cases d <;> grind [Class.Spans]

/-- The class of a pattern is told by its fields. -/
lemma classify_eq_iff {x : Binary64} {c : Class} :
    x.classify = c ↔ c.Spans x.exponent.toNat x.mantissa.toNat := by
  constructor
  · rintro rfl
    exact x.spans_classify
  · exact x.spans_classify.unique

end Binary64

end CycleSim
