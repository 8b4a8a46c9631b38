/-!
# Decimal numbers

`Decimal` is a natural number of digits times a power of ten, with the two ways of writing one:
positional, with at least one digit on either side of the point, and scientific, with one digit
before it.  `readNat` reads a natural number the way arguments and settings write it, and
`isNumeral` tells the texts that write some number.
-/

namespace CycleSim

/-- The number `digits · 10 ^ exponent`. -/
structure Decimal where
  digits : Nat
  exponent : Int
  deriving DecidableEq, Repr

namespace Decimal

/-- The decimal digits of a natural number, as text. -/
def natText (n : Nat) : String :=
  String.ofList (Nat.toDigits 10 n)

/-- `n` divided by `10 ^ places`, written with exactly that many places. -/
def placesText (n places : Nat) : String :=
  let digits := Nat.toDigits 10 n
  let padded := List.replicate (places + 1 - digits.length) '0' ++ digits
  let whole := padded.take (padded.length - places)
  let rest := padded.drop (padded.length - places)
  String.ofList (if places = 0 then whole else whole ++ '.' :: rest)

/-- Power of ten of the first digit. -/
def leadingExponent (d : Decimal) : Int :=
  d.exponent + ((Nat.toDigits 10 d.digits).length - 1 : Nat)

/-- Positional notation, such as `1500.0` or `0.001`. -/
def positional (d : Decimal) : String :=
  if 0 ≤ d.exponent then natText (d.digits * Nat.pow 10 d.exponent.toNat) ++ ".0"
  else placesText d.digits (-d.exponent).toNat

/-- Scientific notation, such as `1.5e-7`; a plus sign stands before a positive exponent if
`plus`. -/
def scientific (d : Decimal) (plus : Bool) : String :=
  let power := d.leadingExponent
  let mantissa := match Nat.toDigits 10 d.digits with
    | [] => ""
    | [digit] => String.ofList [digit]
    | digit :: rest => String.ofList (digit :: '.' :: rest)
  let sign := if power < 0 then "-" else if plus then "+" else ""
  mantissa ++ "e" ++ sign ++ natText power.natAbs

/-- The number that ASCII digits denote; `none` unless all characters are digits and there is at
least one. -/
def ofDigits? (chars : List Char) : Option Nat :=
  if chars ≠ [] ∧ chars.all Char.isDigit then
    some (chars.foldl (fun value c => 10 * value + (c.toNat - '0'.toNat)) 0)
  else none

/-- Reads a natural number below `bound`: ASCII digits, leading zeros allowed, after at most one
plus sign. -/
def readNat (bound : Nat) (text : String) : Option Nat :=
  let digits := match text.toList with
    | '+' :: rest => rest
    | chars => chars
  (ofDigits? digits).filter (· < bound)

/-- A text without the sign in front of it, if there is one. -/
def dropSign : List Char → List Char
  | '+' :: rest | '-' :: rest => rest
  | chars => chars

/-- Whether a text writes a number: digits with at most one point among or around them, and maybe an
exponent, or one of the words for what is not finite, after at most one sign. -/
def isNumeral (text : List Char) : Bool :=
  let unsigned := dropSign text
  let (mantissa, power) := unsigned.span fun c => c ≠ 'e' && c ≠ 'E'
  let places := mantissa.dropWhile Char.isDigit
  let digits := mantissa.takeWhile Char.isDigit ++ places.drop 1
  ["inf", "infinity", "nan"].contains (String.ofList unsigned).toLower
    || places.head?.all (· == '.') && (ofDigits? digits).isSome
      && (power.isEmpty || (ofDigits? (dropSign (power.drop 1))).isSome)

end Decimal

end CycleSim
