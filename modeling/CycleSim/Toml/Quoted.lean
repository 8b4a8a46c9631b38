import CycleSim.Text.Hex
import CycleSim.Toml.Reader

/-!
# Quoted text

TOML writes text in four forms: between double quotes with escapes, between single quotes as it
stands, and both on several lines between tripled quotes.  A tripled form drops a line end right
after its opening quotes, reads every line end as a line feed, and may end in one or two quotes of
its own before the closing three.
-/

namespace CycleSim.Toml.Reader

/-- A character that stands for itself between quotes: tab, or anything but control characters. -/
def isTextChar (c : Char) : Bool :=
  isCommentChar c

/-- Takes exactly `n` hexadecimal digits onto the number `value`. -/
def hexDigits : Nat → Nat → Reader Nat
  | 0, value => pure value
  | n + 1, value => do
    let c ← satisfy (fun c => (Text.hexDigit? c).isSome)
    hexDigits n (16 * value + (Text.hexDigit? c).getD 0)

/-- Takes the `n` digits of a character given by its code point. -/
def codePoint (n : Nat) : Reader Char := do
  let code ← hexDigits n 0
  if code.isValidChar then pure (Char.ofNat code) else failure

/-- Takes what follows a backslash. -/
def escape : Reader Char := do
  match ← satisfy (fun _ => true) with
  | 'b' => pure '\x08'
  | 't' => pure '\t'
  | 'n' => pure '\n'
  | 'f' => pure '\x0c'
  | 'r' => pure '\r'
  | '"' => pure '"'
  | '\\' => pure '\\'
  | 'u' => codePoint 4
  | 'U' => codePoint 8
  | _ => failure

/-- Text between double quotes on one line. -/
def basicString : Reader String := do
  char '"'
  loop (fun taken => do
    match ← satisfy isTextChar with
    | '"' => pure (.inr (String.ofList taken.reverse))
    | '\\' => return .inl ((← escape) :: taken)
    | c => pure (.inl (c :: taken))) []

/-- Text between single quotes on one line. -/
def literalString : Reader String := do
  char '\''
  let content ← takeWhile fun c => isTextChar c && c != '\''
  char '\''
  pure (String.ofList content)

/-- A run of the quote inside or at the end of a tripled form: up to two quotes are text, three
to five close the form and all but three of them are text. -/
def quoteRun (quote : Char) (taken : List Char) : Reader (List Char ⊕ String) := fun cursor =>
  let run := (cursor.rest.takeWhile (· == quote)).length
  let used := min run 5
  let after : Cursor :=
    { cursor with offset := cursor.offset + used, rest := cursor.rest.drop used }
  if used < 3 then some (.inl (List.replicate used quote ++ taken), after)
  else some (.inr (String.ofList (List.replicate (used - 3) quote ++ taken).reverse), after)

/-- Takes a backslash at the end of a line with all blanks and line ends that follow. -/
def lineContinuation : Reader Unit := do
  char '\\'
  blanks
  newline
  loop (fun _ => do
    match ← optional ((do let _ ← takeWhile1 isBlank) <|> newline) with
    | some _ => pure (.inl ())
    | none => pure (.inr ())) ()

/-- The body of a tripled form after its opening quotes; escapes are read only between double
quotes. -/
def multilineBody (quote : Char) : Reader String := do
  let _ ← optional newline
  loop (fun taken => do
    match ← peek with
    | none => failure
    | some c =>
      if c == quote then quoteRun quote taken
      else if c == '\\' && quote == '"' then
        match ← optional lineContinuation with
        | some _ => pure (.inl taken)
        | none => do
          char '\\'
          return .inl ((← escape) :: taken)
      else if isTextChar c then return .inl ((← satisfy isTextChar) :: taken)
      else do
        newline
        pure (.inl ('\n' :: taken))) []

/-- Text in any of the four forms. -/
def quoted : Reader String :=
  (do text "\"\"\""; multilineBody '"')
    <|> (do text "'''"; multilineBody '\'')
    <|> basicString
    <|> literalString

end CycleSim.Toml.Reader
