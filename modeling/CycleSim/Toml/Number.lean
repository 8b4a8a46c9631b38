import CycleSim.Toml.Quoted
import CycleSim.Binary64.Rounding

/-!
# Numbers

Integers are decimal with an optional sign, or hexadecimal, octal or binary without one, and have
to fit into 64 bits.  Floats are decimal with a fraction or an exponent, or the names `inf` and
`nan`.  A single underscore may stand between two digits; decimal integers and the integer part of
floats have no leading zeros.
-/

namespace CycleSim.Toml.Reader

/-- Takes digits among which single underscores may stand, and returns the digits. -/
def digitRun (isDigit : Char → Bool) : Reader (List Char) := do
  let run ← takeWhile1 fun c => isDigit c || c == '_'
  let paired := run.zip (run.drop 1)
  if run.head? == some '_' || run.getLast? == some '_' || paired.contains ('_', '_') then failure
  else pure (run.filter (· != '_'))

/-- The number that digits denote in a base. -/
def valueInBase (base : Nat) (digits : List Char) : Nat :=
  digits.foldl (fun value c => base * value + (Text.hexDigit? c).getD 0) 0

/-- Takes a sign; true stands for minus. -/
def sign : Reader Bool := do
  match ← optional (satisfy fun c => c == '+' || c == '-') with
  | some '-' => pure true
  | _ => pure false

/-- Takes a decimal number without leading zeros. -/
def decimalDigits : Reader (List Char) := do
  let digits ← digitRun Char.isDigit
  if digits.head? == some '0' && digits.length != 1 then failure else pure digits

/-- The integer of a sign and a magnitude. -/
def signed (negative : Bool) (magnitude : Nat) : Int :=
  if negative then -magnitude else magnitude

/-- Accepts the integers of 64 bits. -/
def inRange (value : Int) : Reader Int :=
  if Int64.minValue.toInt ≤ value ∧ value ≤ Int64.maxValue.toInt then pure value else failure

/-- A decimal integer. -/
def decimalInteger : Reader Int := do
  let negative ← sign
  let digits ← decimalDigits
  inRange (signed negative (valueInBase 10 digits))

/-- An integer after the marker of its base. -/
def markedInteger (marker : String) (base : Nat) : Reader Int := do
  text marker
  let digits ← digitRun fun c => (Text.hexDigit? c).any (· < base)
  inRange (valueInBase base digits)

/-- An integer. -/
def integer : Reader Int :=
  markedInteger "0x" 16 <|> markedInteger "0o" 8 <|> markedInteger "0b" 2 <|> decimalInteger

/-- The exponent of a float. -/
def exponent : Reader Int := do
  let _ ← satisfy fun c => c == 'e' || c == 'E'
  let negative ← sign
  let digits ← digitRun Char.isDigit
  pure (signed negative (valueInBase 10 digits))

/-- The fraction of a float. -/
def fraction : Reader (List Char) := do
  char '.'
  digitRun Char.isDigit

/-- A float in digits.  A positive number too large for a double is refused. -/
def decimalFloat : Reader Binary64 := do
  let negative ← sign
  let whole ← decimalDigits
  let places ← optional fraction
  let power ← optional exponent
  if places.isNone && power.isNone then failure
  else
    let places := places.getD []
    let value := Binary64.ofDecimal (valueInBase 10 (whole ++ places))
      (power.getD 0 - places.length)
    if value = Binary64.infinity && !negative then failure
    else pure (value.withSign negative)

/-- A float that is not a number of digits. -/
def namedFloat : Reader Binary64 := do
  let negative ← sign
  let value ← (do text "inf"; pure Binary64.infinity) <|> (do text "nan"; pure Binary64.nan)
  pure (value.withSign negative)

/-- A float. -/
def float : Reader Binary64 :=
  decimalFloat <|> namedFloat

end CycleSim.Toml.Reader
