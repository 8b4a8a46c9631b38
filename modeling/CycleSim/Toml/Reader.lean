import CycleSim.Text.Bytes
import CycleSim.Toml.Node

/-!
# Reading text from left to right

A `Reader` takes a value from the front of a text or fails, leaving nothing taken; alternatives
are tried in order with `<|>`.  The cursor counts the bytes behind it, which makes the spans of
what was read.  Loops are `Reader.loop`: each turn that goes on takes at least one character, so the
number of characters of the whole text bounds the turns.
-/

namespace CycleSim.Toml

/-- A place in a text: the bytes before it and the characters after it. -/
structure Cursor where
  offset : Nat
  rest : List Char
  /-- Number of characters of the whole text. -/
  size : Nat
  deriving Repr

/-- The start of a text. -/
def Cursor.ofString (text : String) : Cursor where
  offset := 0
  rest := text.toList
  size := text.toList.length

/-- A partial function from a text to a value and the remaining text. -/
abbrev Reader := StateT Cursor Option

namespace Reader

/-- Takes the characters up to the first that does not satisfy `p`. -/
def takeWhile (p : Char → Bool) : Reader (List Char) := fun cursor =>
  let taken := cursor.rest.takeWhile p
  some (taken, { cursor with
    offset := cursor.offset + Text.utf8Length taken
    rest := cursor.rest.dropWhile p })

/-- Takes at least one character, up to the first that does not satisfy `p`. -/
def takeWhile1 (p : Char → Bool) : Reader (List Char) := do
  let taken ← takeWhile p
  if taken.isEmpty then failure else pure taken

/-- The next character, which is not taken. -/
def peek : Reader (Option Char) := fun cursor =>
  some (cursor.rest.head?, cursor)

/-- Takes one character that satisfies `p`. -/
def satisfy (p : Char → Bool) : Reader Char := fun cursor =>
  match cursor.rest with
  | c :: rest =>
    if p c then some (c, { cursor with offset := cursor.offset + c.utf8Size, rest }) else none
  | [] => none

/-- Takes one given character. -/
def char (expected : Char) : Reader Unit := do
  let _ ← satisfy (· == expected)

/-- Takes a given text. -/
def text (expected : String) : Reader Unit := fun cursor =>
  if expected.toList.isPrefixOf cursor.rest then
    some ((), { cursor with
      offset := cursor.offset + expected.utf8ByteSize
      rest := cursor.rest.drop expected.length })
  else none

/-- Succeeds at the end of the text only. -/
def eof : Reader Unit := fun cursor =>
  if cursor.rest.isEmpty then some ((), cursor) else none

/-- What `reader` takes, or nothing. -/
def optional {α : Type} (reader : Reader α) : Reader (Option α) :=
  (some <$> reader) <|> pure none

/-- What `reader` takes, with the bytes it stands in. -/
def located {α : Type} (reader : Reader α) : Reader (α × Span) := do
  let start := (← get).offset
  let value ← reader
  pure (value, ⟨start, (← get).offset⟩)

/-- Repeats `turn` at most `bound` times, until it gives a result. -/
def loopWithin {σ α : Type} (turn : σ → Reader (σ ⊕ α)) : Nat → σ → Reader α
  | 0, _ => failure
  | bound + 1, state => do
    match ← turn state with
    | .inl state => loopWithin turn bound state
    | .inr result => pure result

/-- Repeats `turn`, which takes a character whenever it goes on, until it gives a result. -/
def loop {σ α : Type} (turn : σ → Reader (σ ⊕ α)) (state : σ) : Reader α := do
  loopWithin turn ((← get).size + 1) state

/-- Takes items separated by `separator`, at least one. -/
def separated {α : Type} (separator : Reader Unit) (item : Reader α) : Reader (List α) := do
  let first ← item
  loop (fun taken => do
    match ← optional (do separator; item) with
    | some next => pure (.inl (next :: taken))
    | none => pure (.inr taken.reverse)) [first]

/-! ### Blanks -/

/-- Space or tab. -/
def isBlank (c : Char) : Bool :=
  c == ' ' || c == '\t'

/-- A character that may stand in a comment: tab, or anything but control characters. -/
def isCommentChar (c : Char) : Bool :=
  c == '\t' || (0x20 ≤ c.val && c.val != 0x7f)

/-- Takes spaces and tabs. -/
def blanks : Reader Unit := do
  let _ ← takeWhile isBlank

/-- Takes a line end: a line feed, with or without a carriage return before it. -/
def newline : Reader Unit :=
  text "\n" <|> text "\r\n"

/-- Takes a comment up to the end of its line. -/
def comment : Reader Unit := do
  char '#'
  let _ ← takeWhile isCommentChar

/-- Takes blanks, line ends and comments. -/
def gap : Reader Unit :=
  loop (fun _ => do
    match ← optional (do let _ ← takeWhile1 isBlank) with
    | some _ => pure (.inl ())
    | none =>
      match ← optional (newline <|> comment) with
      | some _ => pure (.inl ())
      | none => pure (.inr ())) ()

/-- Takes the rest of a line that holds nothing more than a comment. -/
def lineEnd : Reader Unit := do
  blanks
  let _ ← optional comment
  newline <|> eof

end Reader

end CycleSim.Toml
