/-!
# Nesting of parts

How deep the parts of a pattern are nested: parts side by side are one level deeper than the deepest
of them, unless there is just one.
-/

namespace CycleSim.Pattern

/-- Parts that stand side by side. -/
structure Row where
  /-- How many there are. -/
  size : Nat := 0
  /-- Levels in the deepest of them. -/
  deepest : Nat := 0
  deriving DecidableEq, Repr

namespace Row

/-- Adds a part of so many levels. -/
def push (row : Row) (levels : Nat) : Row where
  size := row.size + 1
  deepest := max row.deepest levels

/-- Makes the last part one of so many levels, which are not fewer than it had. -/
def deepen (row : Row) (levels : Nat) : Row :=
  { row with deepest := max row.deepest levels }

/-- Levels of the parts together. -/
def levels (row : Row) : Nat :=
  if row.size ≤ 1 then row.deepest else row.deepest + 1

end Row

end CycleSim.Pattern
