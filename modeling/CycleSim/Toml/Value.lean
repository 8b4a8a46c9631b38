import CycleSim.Toml.DateTime
import CycleSim.Toml.Number

/-!
# Values

Scalars, arrays and inline tables.  Arrays may spread over lines and end in a comma, inline tables
may not.  Keys of an inline table may be dotted, which makes tables inside it or adds to those
that are there.  Arrays and inline tables nest to a fixed depth, and a dotted key has as many names
at most.
-/

namespace CycleSim.Toml

/-- The most arrays and inline tables around a value, and the most names of a dotted key. -/
def nestingLimit : Nat := 127

namespace Reader

/-- A character of a key without quotes. -/
def isBareKeyChar (c : Char) : Bool :=
  c.isAlphanum || c == '-' || c == '_'

/-- One name of a key. -/
def simpleKey : Reader Key := do
  let (name, span) ← located
    (basicString <|> literalString <|> String.ofList <$> takeWhile1 isBareKeyChar)
  pure ⟨name, span⟩

/-- A key: names joined by dots, around which blanks may stand. -/
def key : Reader (List Key) := do
  let names ← separated (char '.') (do blanks; let name ← simpleKey; blanks; pure name)
  if names.length ≤ nestingLimit then pure names else failure

/-- A value without parts.  What starts like a number is tried as a date-time first, since a date
starts with digits, and as an integer last, since an integer starts most floats. -/
def scalar : Reader Scalar :=
  (Scalar.string <$> quoted)
    <|> (do text "true"; pure (.boolean true))
    <|> (do text "false"; pure (.boolean false))
    <|> (do dateTime; pure .dateTime)
    <|> (Scalar.float <$> float)
    <|> (Scalar.integer <$> integer)

end Reader

/-- Adds an entry to an inline table under a dotted key; `none` if the key is taken. -/
def Table.assignInline (node : Node) : List Key → Table Node → Option (Table Node)
  | [], _ => none
  | [key], table =>
    match table.find? key.name with
    | none => some (table.push key node)
    | some _ => none
  | key :: path, table =>
    match table.find? key.name with
    | none => do
      let inner ← Table.assignInline node path { inline := true, dotted := true }
      some (table.push key (.table inner))
    | some (.table inner) => do
      some (table.replace key.name (.table (← Table.assignInline node path inner)))
    | some _ => none

namespace Reader

/-- An array whose items are read by `item`. -/
def array (item : Reader Node) : Reader (List Node) := do
  char '['
  let items ← optional (separated (char ',') (do gap; let node ← item; gap; pure node))
  if items.isSome then
    let _ ← optional (char ',')
  gap
  char ']'
  pure (items.getD [])

/-- An inline table whose values are read by `item`. -/
def inlineTable (item : Reader Node) : Reader (Table Node) := do
  char '{'
  let pairs ← optional (separated (char ',') (do
    let path ← key
    char '='
    blanks
    let node ← item
    blanks
    pure (path, node)))
  blanks
  char '}'
  match (pairs.getD []).foldlM (fun table (path, node) => table.assignInline node path)
      ({ inline := true } : Table Node) with
  | some table => pure table
  | none => failure

/-- A scalar as a node. -/
def scalarNode : Reader Node := do
  let (value, span) ← located scalar
  pure (.scalar span value)

/-- A value with at most `depth` arrays and inline tables around its scalars. -/
def valueWithin : Nat → Reader Node
  | 0 => scalarNode
  | depth + 1 => do
    match ← peek with
    | some '[' =>
      let (items, span) ← located (array (valueWithin depth))
      pure (.array span items)
    | some '\x7b' =>
      let (table, span) ← located (inlineTable (valueWithin depth))
      pure (.table { table with span := some span })
    | _ => scalarNode

/-- A value. -/
def value : Reader Node :=
  valueWithin nestingLimit

end Reader

end CycleSim.Toml
