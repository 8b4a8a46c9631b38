import CycleSim.Toml.Value

/-!
# Statements

A document is a sequence of lines: assignments of a value to a key, headers that open a table, and
headers that add an element to an array of tables, with blank lines and comments between them.
-/

namespace CycleSim.Toml

/-- A line of a document that says something. -/
inductive Statement where
  /-- A value for a key of the table opened last. -/
  | assign (path : List Key) (node : Node)
  /-- A header `[path]`. -/
  | openTable (path : List Key) (span : Span)
  /-- A header `[[path]]`. -/
  | openElement (path : List Key) (span : Span)
  deriving Repr

namespace Reader

/-- An assignment. -/
def assignment : Reader Statement := do
  let path ← key
  char '='
  blanks
  let node ← value
  lineEnd
  pure (.assign path node)

/-- A header. -/
def header : Reader Statement :=
  (do
    let (path, span) ← located (do text "[["; let path ← key; text "]]"; pure path)
    lineEnd
    pure (.openElement path span))
    <|> (do
      let (path, span) ← located (do text "["; let path ← key; text "]"; pure path)
      lineEnd
      pure (.openTable path span))

/-- All statements of a text. -/
def statements : Reader (List Statement) := do
  let _ ← optional (text "\uFEFF")
  loop (fun taken => do
    blanks
    match ← peek with
    | none => pure (.inr taken.reverse)
    | some '#' => do lineEnd; pure (.inl taken)
    | some '\n' | some '\r' => do newline; pure (.inl taken)
    | some '[' => return .inl ((← header) :: taken)
    | some _ => return .inl ((← assignment) :: taken)) []

end Reader

/-- The statements of a text, or `none` if the text is not a sequence of them. -/
def Statement.readAll (text : String) : Option (List Statement) :=
  (Reader.statements (Cursor.ofString text)).map (·.1)

end CycleSim.Toml
