/-!
# Reset policies

Registers that a design leaves undriven at its start take their first value from a policy.
-/

namespace CycleSim

/-- Where undriven registers take their first value from. -/
inductive ResetPolicy where
  /-- Every bit starts at 0. -/
  | zeros
  /-- Every bit starts at 1. -/
  | ones
  /-- Bits come from the seeded stream. -/
  | random
  deriving DecidableEq, Repr, Inhabited

namespace ResetPolicy

/-- All policies, in the order of their codes. -/
def all : List ResetPolicy :=
  [zeros, ones, random]

/-- Name of a policy in configuration files. -/
def name : ResetPolicy → String
  | zeros => "zeros"
  | ones => "ones"
  | random => "random"

/-- Name of a policy in log lines. -/
def title : ResetPolicy → String
  | zeros => "Zeros"
  | ones => "Ones"
  | random => "Random"

/-- The policy with a code. -/
def ofCode? (code : Nat) : Option ResetPolicy :=
  all[code]?

end ResetPolicy

end CycleSim
