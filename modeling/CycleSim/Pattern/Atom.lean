import CycleSim.Pattern.Mode
import CycleSim.Text.Hex

/-!
# Smallest parts of a pattern

An atom is a character that stands for itself, an escape after a backslash, the dot, or an edge of
the text.  Two rules say which of them a mode admits.  By code points, nothing may depend on a table
of all scripts: neither the classes `\d`, `\s` and `\w`, nor word edges, nor ignored case.  By
bytes, nothing may match a part of a character only.
-/

namespace CycleSim.Pattern

/-- A smallest part of a pattern. -/
inductive Atom where
  /-- A character that stands for itself; `byte` tells one written by two hexadecimal digits. -/
  | literal (c : Char) (byte : Bool)
  /-- One of the classes of digits, blanks and word characters, or all others if `negated`. -/
  | shorthand (negated : Bool)
  /-- Any character. -/
  | any
  /-- The start or the end of the text or of a line. -/
  | textEdge
  /-- A place between a word and what is none, or one that is not. -/
  | wordEdge
  deriving DecidableEq, Repr

namespace Atom

/-- Whether a mode admits an atom outside of sets. -/
def fits (mode : Mode) : Atom → Bool
  | literal c byte => if mode.unicode then !mode.ignoreCase else !byte || c.val < 0x80
  | shorthand negated => !mode.unicode && !negated
  | any => mode.unicode
  | textEdge => true
  | wordEdge => !mode.unicode

/-- Whether a mode admits an atom in a set. -/
def fitsInSet (mode : Mode) : Atom → Bool
  | literal c _ => if mode.unicode then !mode.ignoreCase else c.val < 0x80
  | shorthand negated => !mode.unicode && !negated
  | _ => false

end Atom

/-- Reads a value from the front of a text or fails. -/
abbrev Scan := StateT (List Char) Option

namespace Scan

/-- Takes the next character. -/
def next : Scan Char := do
  match ← get with
  | c :: rest => set rest; pure c
  | [] => failure

/-- Passes over what the mode passes over. -/
def skip (mode : Mode) : Scan Unit :=
  modify mode.skip

/-- Goes on under a condition only. -/
def require (condition : Bool) : Scan Unit :=
  if condition then pure () else failure

/-- Takes `n` hexadecimal digits onto the number `value`. -/
def hexDigits (mode : Mode) : Nat → Nat → Scan Nat
  | 0, value => pure value
  | n + 1, value => do
    skip mode
    match Text.hexDigit? (← next) with
    | some digit => hexDigits mode n (16 * value + digit)
    | none => failure

/-- Takes the `n` digits of a character given by its code point. -/
def codePoint (mode : Mode) (n : Nat) : Scan Char := do
  let code ← hexDigits mode n 0
  if code.isValidChar then pure (Char.ofNat code) else failure

/-- Takes what follows a backslash. -/
def escape (mode : Mode) : Scan Atom := do
  match ← next with
  | 'x' => (Atom.literal · true) <$> codePoint mode 2
  | 'u' => (Atom.literal · false) <$> codePoint mode 4
  | 'U' => (Atom.literal · false) <$> codePoint mode 8
  | 'd' | 's' | 'w' => pure (.shorthand false)
  | 'D' | 'S' | 'W' => pure (.shorthand true)
  | 'A' | 'z' => pure .textEdge
  | 'b' | 'B' | '<' | '>' => pure .wordEdge
  | 'a' => pure (.literal '\x07' false)
  | 't' => pure (.literal '\t' false)
  | 'n' => pure (.literal '\n' false)
  | 'v' => pure (.literal '\x0b' false)
  | 'f' => pure (.literal '\x0c' false)
  | 'r' => pure (.literal '\r' false)
  | c => if c.val < 0x80 && !c.isAlphanum then pure (.literal c false) else failure

/-- Takes an atom outside of sets. -/
def atom (mode : Mode) : Scan Atom := do
  match ← next with
  | '\\' => escape mode
  | '.' => pure .any
  | '^' | '$' => pure .textEdge
  | c => pure (.literal c false)

/-- Takes an atom in a set. -/
def atomInSet (mode : Mode) : Scan Atom := do
  match ← next with
  | '\\' => escape mode
  | c => pure (.literal c false)

end Scan

end CycleSim.Pattern
