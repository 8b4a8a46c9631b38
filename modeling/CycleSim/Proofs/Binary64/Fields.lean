import Mathlib.Data.Nat.Bitwise
import CycleSim.Binary64.Rounding

/-!
# The fields of a double as numbers

The fields of a pattern are cut out with masks and shifts.  Read as naturals they are quotients and
remainders of the pattern, the form in which arithmetic on patterns is carried out, and a pattern
is the sum of its three fields in their places.
-/

namespace CycleSim.Binary64

variable (x : Binary64)

/-- The exponent field is the eleven bits above the mantissa. -/
lemma toNat_exponent : x.exponent.toNat = x.bits.toNat / 2 ^ 52 % 2 ^ 11 := by
  rw [exponent, UInt64.toNat_shiftRight, UInt64.toNat_and]
  show (x.bits.toNat &&& 0x7ff0000000000000) >>> 52 = _
  rw [Nat.shiftRight_and_distrib, Nat.shiftRight_eq_div_pow]
  exact Nat.and_two_pow_sub_one_eq_mod _ 11

/-- The mantissa field is the lowest fifty-two bits. -/
lemma toNat_mantissa : x.mantissa.toNat = x.bits.toNat % 2 ^ 52 := by
  rw [mantissa, UInt64.toNat_and]
  exact Nat.and_two_pow_sub_one_eq_mod _ 52

/-- The sign bit in its place is the highest bit. -/
lemma toNat_sign : x.sign.toNat = 2 ^ 63 * (x.bits.toNat / 2 ^ 63) := by
  have top : x.bits.toNat / 2 ^ 63 < 2 := by
    have := x.bits.toNat_lt
    omega
  rw [sign, UInt64.toNat_and]
  show x.bits.toNat &&& 2 ^ 63 = _
  rw [Nat.and_comm, Nat.two_pow_and, Nat.toNat_testBit, Nat.mod_eq_of_lt top]

/-- The exponent field has eleven bits. -/
lemma toNat_exponent_lt : x.exponent.toNat < 2 ^ 11 := by
  rw [toNat_exponent]
  exact Nat.mod_lt _ (by decide)

/-- The mantissa field has fifty-two bits. -/
lemma toNat_mantissa_lt : x.mantissa.toNat < 2 ^ 52 := by
  rw [toNat_mantissa]
  exact Nat.mod_lt _ (by decide)

/-- The sign is one bit. -/
lemma sign_eq_zero_or : x.sign.toNat = 0 ∨ x.sign.toNat = 2 ^ 63 := by
  have := x.bits.toNat_lt
  rw [toNat_sign]
  omega

/-- A pattern is the sum of its fields in their places. -/
lemma toNat_bits :
    x.bits.toNat = x.sign.toNat + (2 ^ 52 * x.exponent.toNat + x.mantissa.toNat) := by
  rw [toNat_sign, toNat_exponent, toNat_mantissa]
  omega

variable {x}

/-- An exponent field is a given one if it is as a number. -/
lemma exponent_eq_iff {e : UInt64} : x.exponent = e ↔ x.exponent.toNat = e.toNat :=
  UInt64.toNat_inj.symm

/-- The exponent field of a number is not all ones. -/
lemma isFinite_iff : x.isFinite = true ↔ x.exponent.toNat < 2047 := by
  have bound := x.toNat_exponent_lt
  rw [isFinite, bne_iff_ne, Ne, exponent_eq_iff]
  show ¬x.exponent.toNat = 2047 ↔ _
  omega

/-- Two patterns are equal if they are as numbers. -/
lemma ext_toNat {y : Binary64} (same : x.bits.toNat = y.bits.toNat) : x = y := by
  cases x
  cases y
  exact congrArg mk (UInt64.toNat_inj.mp same)

/-- Patterns are equal if their fields are. -/
lemma eq_iff_fields {y : Binary64} :
    x = y ↔ x.sign = y.sign ∧ x.exponent.toNat = y.exponent.toNat ∧
      x.mantissa.toNat = y.mantissa.toNat := by
  constructor
  · rintro rfl
    exact ⟨rfl, rfl, rfl⟩
  · rintro ⟨sign, exponent, mantissa⟩
    apply ext_toNat
    rw [x.toNat_bits, y.toNat_bits, sign, exponent, mantissa]

/-- A sign put in front of a pattern below the sign bit is added to it. -/
lemma toNat_sign_or {below : UInt64} (lt : below.toNat < 2 ^ 63) :
    (x.sign ||| below).toNat = x.sign.toNat + below.toNat := by
  rw [UInt64.toNat_or, toNat_sign]
  exact (Nat.two_pow_add_eq_or_of_lt lt _).symm

/-- Giving a pattern below the sign bit the sign of another adds that sign. -/
lemma toNat_withSign {y : Binary64} (lt : y.bits.toNat < 2 ^ 63) :
    (withSign x.isNegative y).bits.toNat = x.sign.toNat + y.bits.toNat := by
  unfold withSign isNegative
  rcases x.sign_eq_zero_or with plus | minus
  · have clear : x.sign = 0 := UInt64.toNat_inj.mp plus
    simp [clear]
  · have set : x.sign = signMask := UInt64.toNat_inj.mp minus
    rw [set, if_pos (by decide), UInt64.toNat_or, Nat.or_comm]
    exact (Nat.two_pow_add_eq_or_of_lt lt 1).symm

/-! ### Powers of two -/

/-- The magnitude of a number, by its fields. -/
lemma magnitude_eq (x : Binary64) :
    x.magnitude = if x.exponent = 0 then x.mantissa.toNat
      else (2 ^ 52 + x.mantissa.toNat) * 2 ^ (x.exponent.toNat - 1) := rfl

/-- The width of the grid of doubles. -/
lemma spacing_eq (units : ℕ) :
    spacing units = if units < 2 ^ 53 then 0 else units.log2 - 52 := rfl

/-- The pattern that a quotient is rounded to. -/
lemma nearest_eq (num den : ℕ) :
    nearest num den = ⟨UInt64.ofNat (min (spacing (num / den) * 2 ^ 52 +
      roundQuotient .toEven num (den * 2 ^ spacing (num / den))) exponentMask.toNat)⟩ := rfl

end CycleSim.Binary64
