import CycleSim.Pattern.Atom
import CycleSim.Pattern.Nesting

/-!
# Sets of characters

A set stands between brackets.  It holds atoms, ranges of characters, named sets such as `[:alpha:]`
and further sets, and may be negated by a circumflex after its opening bracket.  Two signs in a row
combine what stands before them with what stands behind: `&&` keeps what is in both, `--` what is
only in the first, `~~` what is in just one.
-/

namespace CycleSim.Pattern

/-- Names of the named sets. -/
def setNames : List String :=
  ["alnum", "alpha", "ascii", "blank", "cntrl", "digit", "graph", "lower", "print", "punct",
    "space", "upper", "word", "xdigit"]

/-- Reads a named set: whether it is negated, and the text behind it. -/
def namedSet? : List Char → Option (Bool × List Char)
  | '[' :: ':' :: inside =>
    let negated := inside.head? = some '^'
    let inside := if negated then inside.drop 1 else inside
    let name := inside.takeWhile (· ≠ ':')
    match inside.drop name.length with
    | ':' :: ']' :: rest =>
      if String.ofList name ∈ setNames then some (negated, rest) else none
    | _ => none
  | _ => none

/-- Whether a mode admits a named set. -/
def namedSetFits (mode : Mode) (negated : Bool) : Bool :=
  if mode.unicode then !mode.ignoreCase else !negated

/-- The text behind two signs that combine what is around them. -/
def behindOperator? : List Char → Option (List Char)
  | '&' :: '&' :: rest | '-' :: '-' :: rest | '~' :: '~' :: rest => some rest
  | _ => none

/-- A set up to a place inside of it. -/
structure OpenSet where
  /-- Levels of what stands before the last two signs that combine, if there are any. -/
  left : Option Nat := none
  /-- What stands behind them. -/
  items : Row := {}
  /-- Whether hyphens are all that stands in the set so far. -/
  fresh : Bool := true
  deriving Repr

namespace OpenSet

/-- Adds an item of so many levels. -/
def push (set : OpenSet) (levels : Nat) : OpenSet :=
  { set with items := set.items.push levels, fresh := false }

/-- Levels of what stands in the set. -/
def levels (set : OpenSet) : Nat :=
  match set.left with
  | none => set.items.levels
  | some left => max left set.items.levels + 1

/-- Begins what is combined with all that stands in the set. -/
def combine (set : OpenSet) : OpenSet where
  left := some set.levels
  fresh := false

end OpenSet

namespace Scan

/-- Takes what may follow the opening bracket of a set. -/
def setStart (mode : Mode) : Scan OpenSet := do
  skip mode
  match ← get with
  | '^' :: rest =>
    require mode.unicode
    set rest
  | _ => pure ()
  pure {}

/-- Takes an atom or a range of characters.  A hyphen makes a range unless another hyphen or the
closing bracket is behind it. -/
def setItem (mode : Mode) : Scan Unit := do
  let first ← atomInSet mode
  require (first.fitsInSet mode)
  skip mode
  match ← get with
  | '-' :: rest =>
    if mode.behindHyphen? rest ≠ some ']' ∧ mode.behindHyphen? rest ≠ some '-' then
      set rest
      skip mode
      match first, ← atomInSet mode with
      | .literal low _, .literal high byte =>
        require (low ≤ high && (Atom.literal high byte).fitsInSet mode)
      | _, _ => failure
  | _ => pure ()

/-- Takes the rest of the set `inner` and of the sets around it, from the innermost to the
outermost, in at most so many turns, and returns the levels of the outermost.  While a set is fresh,
a hyphen and a closing bracket before everything else stand for themselves. -/
def setRest (mode : Mode) : Nat → OpenSet → List OpenSet → Scan Nat
  | 0, _, _ => failure
  | turns + 1, inner, outer => do
    skip mode
    let text ← get
    if inner.fresh && text.head? == some '-' then
      require ((Atom.literal '-' false).fitsInSet mode)
      set (text.drop 1)
      setRest mode turns { inner.push 0 with fresh := true } outer
    else if inner.fresh && inner.items.size == 0 && text.head? == some ']' then
      require ((Atom.literal ']' false).fitsInSet mode)
      set (text.drop 1)
      setRest mode turns (inner.push 0) outer
    else if let some (negated, rest) := namedSet? text then
      require (namedSetFits mode negated)
      set rest
      setRest mode turns (inner.push 0) outer
    else if let some rest := behindOperator? text then
      set rest
      setRest mode turns inner.combine outer
    else
      match text, outer with
      | '[' :: rest, _ =>
        set rest
        let opened ← setStart mode
        setRest mode turns opened (inner :: outer)
      | ']' :: rest, [] =>
        set rest
        pure (inner.levels + 1)
      | ']' :: rest, around :: outer =>
        set rest
        setRest mode turns (around.push (inner.levels + 1)) outer
      | _, _ =>
        setItem mode
        setRest mode turns (inner.push 0) outer

/-- Takes a set behind its opening bracket and returns its levels. -/
def bracketed (mode : Mode) : Scan Nat := do
  let opened ← setStart mode
  setRest mode ((← get).length + 1) opened []

end Scan

end CycleSim.Pattern
