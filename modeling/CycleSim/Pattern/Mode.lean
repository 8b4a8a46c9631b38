import CycleSim.Text.Blank

/-!
# Modes of a pattern

A pattern is a regular expression.  What may stand in it depends on modes that it switches itself,
by letters after an opening parenthesis and a question mark: `(?x)` counts up to the end of the
group around it, `(?x:…)` for the group that it opens.
-/

namespace CycleSim.Pattern

/-- What counts at a place of a pattern. -/
structure Mode where
  /-- Whether texts are matched by code points, and not by bytes. -/
  unicode : Bool := true
  /-- Whether letters stand for both of their cases. -/
  ignoreCase : Bool := false
  /-- Whether blanks and comments are passed over. -/
  verbose : Bool := false
  deriving DecidableEq, Repr

namespace Mode

/-- Switches the mode of a letter on or off. -/
def switch? (mode : Mode) (letter : Char) (on : Bool) : Option Mode :=
  match letter with
  | 'u' => some { mode with unicode := on }
  | 'i' => some { mode with ignoreCase := on }
  | 'x' => some { mode with verbose := on }
  | 'm' | 's' | 'U' | 'R' => some mode
  | _ => none

/-- Switches on the modes of the letters before a minus sign and off those of the letters behind
it.  No character comes twice, and something stands behind a minus sign. -/
def switchAll? (mode : Mode) (letters : List Char) : Option Mode :=
  if letters.Nodup ∧ letters.getLast? ≠ some '-' then do
    let mode ← (letters.takeWhile (· ≠ '-')).foldlM (·.switch? · true) mode
    ((letters.dropWhile (· ≠ '-')).drop 1).foldlM (·.switch? · false) mode
  else none

/-- Drops blanks and comments, of which each goes from a number sign to the end of its line. -/
def dropBlanks (inComment : Bool) : List Char → List Char
  | [] => []
  | c :: rest =>
    if inComment then dropBlanks (c ≠ '\n') rest
    else if c = '#' then dropBlanks true rest
    else if Text.isBlank c then dropBlanks false rest
    else c :: rest

/-- Drops what is passed over before the next part. -/
def skip (mode : Mode) (text : List Char) : List Char :=
  if mode.verbose then dropBlanks false text else text

/-- The character that decides what a hyphen means whose rest of the text is `text`: in verbose mode
the first that is no blank and not the first number sign, if there is one. -/
def behindHyphen? (mode : Mode) (text : List Char) : Option Char :=
  if mode.verbose then
    match text.dropWhile Text.isBlank with
    | '#' :: rest => (rest.dropWhile Text.isBlank).head?.or text.head?
    | rest => rest.head?.or text.head?
  else text.head?

end Mode

end CycleSim.Pattern
