import CycleSim.Pattern.Set
import CycleSim.Text.Alphanumeric

/-!
# Well-formed patterns

A pattern is made of branches between vertical bars, a branch of parts in a row.  A part is an atom,
a set between brackets, or a group between parentheses, and may be repeated by signs behind it;
letters that switch modes stand among the parts.  Counted repetitions between braces are not
admitted.  Groups may have names, which are all different.
-/

namespace CycleSim.Pattern

/-- The most levels of nested parts. -/
def nestingLimit : Nat := 250

/-- Whether a text is a name for a group. -/
def isGroupName : List Char → Bool
  | [] => false
  | first :: rest =>
    (first == '_' || Text.isAlphabetic first)
      && rest.all fun c => "_.[]".toList.contains c || Text.isAlphanumeric c

/-- A group up to a place inside of it. -/
structure OpenGroup where
  /-- The branches before the last vertical bar. -/
  branches : Row := {}
  /-- The parts behind it. -/
  parts : Row := {}
  /-- Levels of the last part, if it is one that can be repeated. -/
  last : Option Nat := none
  /-- What counts at the place. -/
  mode : Mode := {}
  deriving Repr

namespace OpenGroup

/-- Adds a part of so many levels. -/
def push (group : OpenGroup) (levels : Nat) : OpenGroup :=
  { group with parts := group.parts.push levels, last := some levels }

/-- Adds a switch to another mode, which is a part that cannot be repeated. -/
def switch (group : OpenGroup) (mode : Mode) : OpenGroup :=
  { group with parts := group.parts.push 0, last := none, mode }

/-- Repeats the last part. -/
def repeatLast? (group : OpenGroup) : Option OpenGroup :=
  group.last.map fun levels =>
    { group with parts := group.parts.deepen (levels + 1), last := some (levels + 1) }

/-- Begins another branch. -/
def branch (group : OpenGroup) : OpenGroup where
  branches := group.branches.push group.parts.levels
  mode := group.mode

/-- Levels of what stands in the group. -/
def levels (group : OpenGroup) : Nat :=
  group.branch.branches.levels

end OpenGroup

/-- A pattern up to a place inside of it. -/
structure Progress where
  /-- The innermost group around the place; the whole pattern counts as one. -/
  inner : OpenGroup := {}
  /-- The groups around that one, from the innermost on. -/
  outer : List OpenGroup := []
  /-- Names of groups. -/
  names : List (List Char) := []
  deriving Repr

namespace Progress

/-- Opens a group in which a mode counts. -/
def openGroup (progress : Progress) (mode : Mode) : Progress :=
  { progress with inner := { mode }, outer := progress.inner :: progress.outer }

/-- Closes the innermost group, unless that is the whole pattern. -/
def closeGroup? (progress : Progress) : Option Progress :=
  match progress.outer with
  | [] => none
  | around :: outer =>
    some { progress with inner := around.push (progress.inner.levels + 1), outer }

end Progress

namespace Scan

/-- Takes a name up to the sign that ends it, and opens the group that it is for. -/
def namedGroup (progress : Progress) : Scan Progress := do
  let text ← get
  let name := text.takeWhile (· ≠ '>')
  require (isGroupName name && !progress.names.contains name && name.length < text.length)
  set (text.drop (name.length + 1))
  pure { progress.openGroup progress.inner.mode with names := name :: progress.names }

/-- Takes what follows an opening parenthesis: it opens a group or switches modes. -/
def parenthesis (progress : Progress) : Scan Progress := do
  let mode := progress.inner.mode
  skip mode
  match ← get with
  | '?' :: 'P' :: '<' :: rest | '?' :: '<' :: rest =>
    set rest
    namedGroup progress
  | '?' :: rest =>
    let letters := rest.takeWhile fun c => c ≠ ':' && c ≠ ')'
    set (rest.drop (letters.length + 1))
    match mode.switchAll? letters, rest[letters.length]? with
    | some mode, some ':' => pure (progress.openGroup mode)
    | some mode, some _ =>
      require !letters.isEmpty
      pure { progress with inner := progress.inner.switch mode }
    | _, _ => failure
  | _ => pure (progress.openGroup mode)

/-- Takes the next part of a pattern, of which at least one character is left. -/
def part (progress : Progress) : Scan Progress := do
  let inner := progress.inner
  match ← get with
  | '(' :: rest =>
    set rest
    parenthesis progress
  | ')' :: rest =>
    set rest
    progress.closeGroup?
  | '|' :: rest =>
    set rest
    pure { progress with inner := inner.branch }
  | '[' :: rest =>
    set rest
    let levels ← bracketed inner.mode
    pure { progress with inner := inner.push levels }
  | '\x7b' :: _ => failure
  | c :: rest =>
    if c = '?' ∨ c = '*' ∨ c = '+' then
      set (if rest.head? = some '?' then rest.drop 1 else rest)
      let repeated ← inner.repeatLast?
      pure { progress with inner := repeated }
    else
      let next ← atom inner.mode
      require (next.fits inner.mode)
      pure { progress with inner := inner.push 0 }
  | [] => failure

/-- Takes a whole pattern in at most so many turns. -/
def parts : Nat → Progress → Scan Progress
  | 0, _ => failure
  | turns + 1, progress => do
    skip progress.inner.mode
    if (← get).isEmpty then pure progress else parts turns (← part progress)

end Scan

/-- Whether a text is a pattern.  Each turn takes a character, so their number bounds the turns. -/
def isWellFormed (text : List Char) : Bool :=
  match (Scan.parts (text.length + 1) {}).run text with
  | some (progress, _) => progress.outer.isEmpty && progress.inner.levels ≤ nestingLimit
  | none => false

end CycleSim.Pattern
