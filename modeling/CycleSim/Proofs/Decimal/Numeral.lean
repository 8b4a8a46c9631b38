import Mathlib.Data.Nat.Init
import CycleSim.Decimal.Basic

/-!
# Numerals in arguments and settings

A text `Denotes` a natural number if it consists of decimal digits, of which there is at least one,
after at most one plus sign.  `readNat` reads exactly the texts that denote a number below its bound
(`readNat_eq_some_iff`).
-/

namespace CycleSim.Decimal

/-- Decimal digits after at most one plus sign denote a number; leading zeros make no
difference. -/
def Denotes (text : String) (n : ℕ) : Prop :=
  ∃ digits : List Char, digits ≠ [] ∧ (∀ c ∈ digits, c.isDigit = true) ∧
    (text.toList = digits ∨ text.toList = '+' :: digits) ∧ n = Nat.ofDigitChars 10 digits 0

/-- Digits are read as the number that they write. -/
lemma ofDigits?_eq_some_iff {digits : List Char} {n : ℕ} :
    ofDigits? digits = some n ↔
      digits ≠ [] ∧ (∀ c ∈ digits, c.isDigit = true) ∧ n = Nat.ofDigitChars 10 digits 0 := by
  rw [ofDigits?, Option.ite_none_right_eq_some, List.all_eq_true, and_assoc, Option.some.injEq,
    eq_comm]
  rfl

/-- Characters without a plus sign in front of them. -/
def unsigned : List Char → List Char
  | '+' :: rest => rest
  | chars => chars

/-- Reading a number takes a plus sign off and then reads digits. -/
lemma readNat_eq (bound : ℕ) (text : String) :
    readNat bound text = (ofDigits? (unsigned text.toList)).filter (· < bound) := rfl

/-- At most a plus sign is taken off. -/
lemma eq_unsigned_or (chars : List Char) :
    chars = unsigned chars ∨ chars = '+' :: unsigned chars := by
  unfold unsigned
  split
  · exact .inr rfl
  · exact .inl rfl

/-- A plus sign is no digit, so nothing is taken off digits. -/
lemma unsigned_of_isDigit {digits : List Char} (all : ∀ c ∈ digits, c.isDigit = true) :
    unsigned digits = digits := by
  unfold unsigned
  split
  · have digit := all '+' List.mem_cons_self
    exact absurd digit (by decide)
  · rfl

/-- A number is read from the texts that denote it, if it is below the bound. -/
theorem readNat_eq_some_iff {bound n : ℕ} {text : String} :
    readNat bound text = some n ↔ Denotes text n ∧ n < bound := by
  rw [readNat_eq, Option.filter_eq_some_iff, decide_eq_true_iff, and_congr_left_iff]
  intro _
  rw [ofDigits?_eq_some_iff]
  constructor
  · rintro ⟨some, all, value⟩
    exact ⟨_, some, all, eq_unsigned_or text.toList, value⟩
  · rintro ⟨digits, some, all, plain | signed, value⟩
    · rw [plain, unsigned_of_isDigit all]
      exact ⟨some, all, value⟩
    · rw [signed]
      exact ⟨some, all, value⟩

/-- Nothing is read from a text that denotes no number below the bound. -/
theorem readNat_eq_none_iff {bound : ℕ} {text : String} :
    readNat bound text = none ↔ ∀ n, Denotes text n → bound ≤ n := by
  rw [Option.eq_none_iff_forall_ne_some]
  refine forall_congr' fun n => ?_
  rw [Ne, readNat_eq_some_iff, not_and, Nat.not_lt]

/-- A text denotes at most one number. -/
lemma Denotes.unique {text : String} {n m : ℕ} (denotes : Denotes text n)
    (denotes' : Denotes text m) : n = m := by
  have read : readNat (n + m + 1) text = some n := readNat_eq_some_iff.mpr ⟨denotes, by omega⟩
  have read' : readNat (n + m + 1) text = some m := readNat_eq_some_iff.mpr ⟨denotes', by omega⟩
  exact Option.some.inj (read.symm.trans read')

end CycleSim.Decimal
