import CycleSim.Toml.Reader

/-!
# Date-times

A date `YYYY-MM-DD`, a time `hh:mm:ss` with an optional fraction, or a date and a time joined by
`T` or a space with an optional offset from universal time.  Each field is checked on its own, so
every month is taken to have 31 days, and a minute may have a sixty-first second.
-/

namespace CycleSim.Toml.Reader

/-- Takes exactly `n` decimal digits onto the number `value`. -/
def fixedDigits : Nat → Nat → Reader Nat
  | 0, value => pure value
  | n + 1, value => do
    let c ← satisfy Char.isDigit
    fixedDigits n (10 * value + (c.toNat - '0'.toNat))

/-- Takes two digits whose number lies between two bounds. -/
def twoDigits (least greatest : Nat) : Reader Unit := do
  let value ← fixedDigits 2 0
  if least ≤ value ∧ value ≤ greatest then pure () else failure

/-- A date. -/
def date : Reader Unit := do
  let _ ← fixedDigits 4 0
  char '-'
  twoDigits 1 12
  char '-'
  twoDigits 1 31

/-- A time of day. -/
def time : Reader Unit := do
  twoDigits 0 23
  char ':'
  twoDigits 0 59
  char ':'
  twoDigits 0 60
  let _ ← optional (do char '.'; let _ ← takeWhile1 Char.isDigit)

/-- An offset from universal time. -/
def timeOffset : Reader Unit :=
  (do let _ ← satisfy fun c => c == 'Z' || c == 'z')
    <|> (do
      let _ ← satisfy fun c => c == '+' || c == '-'
      twoDigits 0 23
      char ':'
      twoDigits 0 59)

/-- A date, a time, or both. -/
def dateTime : Reader Unit :=
  (do
    date
    let _ ← optional (do
      let _ ← satisfy fun c => c == 'T' || c == 't' || c == ' '
      time
      let _ ← optional timeOffset))
    <|> time

end CycleSim.Toml.Reader
