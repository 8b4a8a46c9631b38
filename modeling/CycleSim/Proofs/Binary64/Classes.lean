import CycleSim.Proofs.Binary64.Value

/-!
# What doubling does to the classes

Doubling acts on the fields of a pattern: under exponent 0 the mantissa moves up by one bit, whose
carry becomes the exponent; any other number gets the next exponent, and with the last exponent it
becomes the infinity of its sign; infinities and not-a-numbers stay (`fields_double`).  The classes
of operands are ranges of the same fields, so the class of a pattern tells the class of its double
(`classify_double`), and only patterns that end as infinities share a double with others
(`double_eq_double_iff`).
-/

namespace CycleSim.Binary64

variable (x : Binary64)

/-! ### The fields of a double -/

/-- Infinities and not-a-numbers are their own doubles. -/
lemma double_of_top {x : Binary64} (top : x.exponent.toNat = 2047) : x.double = x := by
  have field : x.exponent = maxExponent := exponent_eq_iff.mpr top
  rw [double, field, if_neg (by decide), if_pos rfl]

/-- The fields of a double.  Under exponent 0 the mantissa moves up and its carry becomes the
exponent; every other exponent goes up by one as long as it can, and an exponent that reaches the
greatest in that way leaves no mantissa. -/
lemma fields_double : x.double.sign = x.sign ∧
    (x.double.exponent.toNat = if x.exponent.toNat = 0 then 2 * x.mantissa.toNat / 2 ^ 52
      else min (x.exponent.toNat + 1) 2047) ∧
    x.double.mantissa.toNat = if x.exponent.toNat = 0 then 2 * x.mantissa.toNat % 2 ^ 52
      else if x.exponent.toNat = 2046 then 0 else x.mantissa.toNat := by
  have bound := x.toNat_mantissa_lt
  have range := x.toNat_exponent_lt
  by_cases finite : x.isFinite = true
  · obtain ⟨sign, exponent, mantissa⟩ :=
      fields_of_toNat_bits (x.toNat_double finite) x.doubledPlace_lt
    have below := isFinite_iff.mp finite
    have zero : x.exponent = 0 ↔ x.exponent.toNat = 0 := exponent_eq_iff
    have mask : exponentMask.toNat = 2047 * 2 ^ 52 := rfl
    simp only [doubledPlace, zero, mask] at exponent mantissa
    refine ⟨sign, ?_, ?_⟩
    · rw [exponent]
      split_ifs <;> omega
    · rw [mantissa]
      split_ifs <;> omega
  · rw [isFinite_iff] at finite
    rw [double_of_top (by omega), if_neg (by omega), if_neg (by omega), if_neg (by omega)]
    exact ⟨rfl, by omega, rfl⟩

/-- A pattern is an infinity exactly if its class is that of the infinities. -/
lemma isInfinite_iff {x : Binary64} : x.isInfinite = true ↔ x.classify = .infinity := by
  have none : x.mantissa = 0 ↔ x.mantissa.toNat = 0 := UInt64.toNat_inj.symm
  rw [classify_eq_iff, isInfinite, Bool.and_eq_true, beq_iff_eq, beq_iff_eq, exponent_eq_iff, none]
  rfl

/-! ### The class of a double -/

/-- The class of the double of a pattern with given fields. -/
def Class.doubled (exponent mantissa : ℕ) : Class → Class
  | .zero => .zero
  | .denormal => if mantissa < 2 ^ 51 then .denormal else .normal
  | .normal => if exponent < 2045 then .normal else .overflow
  | .overflow => .infinity
  | .infinity => .infinity
  | .nan => .nan

/-- Doubling takes classes to classes. -/
lemma classify_double :
    x.double.classify = x.classify.doubled x.exponent.toNat x.mantissa.toNat := by
  have bound := x.toNat_mantissa_lt
  obtain ⟨-, exponent, mantissa⟩ := x.fields_double
  rw [classify_eq_iff]
  cases own : x.classify <;> rw [classify_eq_iff, Class.Spans] at own <;> rw [Class.doubled]
  case denormal =>
    -- The top bit of the mantissa is what the shift carries into the exponent.
    split_ifs at exponent mantissa ⊢ <;> rw [Class.Spans] <;> omega
  case normal => split_ifs at exponent mantissa ⊢ <;> rw [Class.Spans] <;> omega
  all_goals split_ifs at exponent mantissa <;> rw [Class.Spans] <;> omega

/-- The greatest bit of a mantissa. -/
lemma testBit_top : x.bits.toNat.testBit 51 = true ↔ 2 ^ 51 ≤ x.mantissa.toNat := by
  rw [toNat_mantissa, Nat.testBit_eq_decide_div_mod_eq, decide_eq_true_iff]
  omega

/-- A pattern that is its own double is a zero, or no number. -/
lemma double_eq_self_iff :
    x.double = x ↔ x.classify = .zero ∨ x.classify = .infinity ∨ x.classify = .nan := by
  have range := x.toNat_exponent_lt
  obtain ⟨sign, exponent, mantissa⟩ := x.fields_double
  rw [eq_iff_fields, exponent, mantissa]
  simp only [sign, true_and, classify_eq_iff, Class.Spans]
  split_ifs <;> omega

/-! ### Patterns with one double -/

/-- Whether the double of a pattern is an infinity. -/
def Saturates : Prop :=
  x.classify = .overflow ∨ x.classify = .infinity

/-- Two patterns have one double exactly if they have one sign and both saturate. -/
lemma double_eq_double_iff {x y : Binary64} (different : x ≠ y) :
    x.double = y.double ↔ x.sign = y.sign ∧ x.Saturates ∧ y.Saturates := by
  have boundX := x.toNat_mantissa_lt
  have boundY := y.toNat_mantissa_lt
  have rangeX := x.toNat_exponent_lt
  have rangeY := y.toNat_exponent_lt
  obtain ⟨signX, exponentX, mantissaX⟩ := x.fields_double
  obtain ⟨signY, exponentY, mantissaY⟩ := y.fields_double
  rw [Ne, eq_iff_fields] at different
  rw [eq_iff_fields, signX, signY, exponentX, exponentY, mantissaX, mantissaY]
  simp only [Saturates, classify_eq_iff, Class.Spans]
  by_cases sign : x.sign = y.sign
  · simp only [sign, true_and] at different ⊢
    split_ifs <;> omega
  · simp only [sign, false_and]

/-- The classes of patterns describe what doubling does to them.  The overflow class holds exactly
the numbers whose double is infinite; a pattern is its own double exactly if it is a zero, an
infinity or a not-a-number; the double of a denormal is a denormal, or a normal number if the top
bit of the mantissa is set; that of a normal number is normal or in the overflow class, that of the
overflow class an infinity, and zeros, infinities and not-a-numbers keep their classes.  Two
patterns have one double exactly if they have one sign and each is in the overflow class or an
infinity. -/
theorem classify_describes_double (x : Binary64) :
    (x.classify = .overflow ↔ x.isFinite = true ∧ x.double.isInfinite = true) ∧
    (x.double = x ↔ x.classify = .zero ∨ x.classify = .infinity ∨ x.classify = .nan) ∧
    (x.classify = .denormal →
      (x.double.classify = .denormal ∨ x.double.classify = .normal) ∧
        (x.double.classify = .normal ↔ x.bits.toNat.testBit 51 = true)) ∧
    (x.classify = .normal → x.double.classify = .normal ∨ x.double.classify = .overflow) ∧
    (x.classify = .overflow → x.double.classify = .infinity) ∧
    (x.classify = .zero ∨ x.classify = .infinity ∨ x.classify = .nan →
      x.double.classify = x.classify) ∧
    ∀ y : Binary64, x ≠ y →
      (x.double = y.double ↔ x.sign = y.sign ∧
        (x.classify = .overflow ∨ x.classify = .infinity) ∧
        (y.classify = .overflow ∨ y.classify = .infinity)) := by
  have double := x.classify_double
  refine ⟨?_, x.double_eq_self_iff, ?_, ?_, ?_, ?_, fun y => double_eq_double_iff⟩
  · rw [isInfinite_iff, isFinite_iff, double]
    cases own : x.classify <;> rw [classify_eq_iff, Class.Spans] at own <;> rw [Class.doubled] <;>
      grind
  · intro denormal
    rw [double, denormal, testBit_top, Class.doubled]
    split_ifs <;> simp only [true_or, or_true, true_and, true_iff, false_iff] <;> omega
  · intro normal
    rw [double, normal, Class.doubled]
    split_ifs <;> simp
  · intro overflow
    rw [double, overflow, Class.doubled]
  · rintro (own | own | own) <;> rw [double, own, Class.doubled]

/-- The least denormal whose double is normal, the greatest number with its double the infinity,
which is also the infinity's double, and a not-a-number as its own double. -/
theorem classify_describes_double_edges :
    (⟨0x0008000000000000⟩ : Binary64).double.classify = .normal ∧
    (⟨0x7fefffffffffffff⟩ : Binary64).double = infinity.double ∧
    (⟨0xfff0000000000001⟩ : Binary64).double = ⟨0xfff0000000000001⟩ := by
  refine ⟨?_, ?_, ?_⟩
  · obtain ⟨-, -, denormal, -⟩ := classify_describes_double ⟨0x0008000000000000⟩
    exact (denormal (by decide)).2.mpr (by decide)
  · obtain ⟨-, -, -, -, -, -, shared⟩ := classify_describes_double ⟨0x7fefffffffffffff⟩
    exact (shared infinity (by decide)).mpr
      ⟨by decide, Or.inl (by decide), Or.inr (by decide)⟩
  · obtain ⟨-, own, -⟩ := classify_describes_double ⟨0xfff0000000000001⟩
    exact own.mpr (Or.inr (Or.inr (by decide)))

end CycleSim.Binary64
