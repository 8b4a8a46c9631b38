import CycleSim.Binary64.Basic

/-!
# TOML documents as trees

A document is a table of keyed nodes.  Nodes remember which bytes of the text they were written
in, so that a reader of the tree can point at what it refuses: a table opened by a header reaches
to the end of its last value, and one built by dotted keys or by the headers of its subtables has
no bytes of its own.  A date-time keeps no value, because no
setting holds one.
-/

namespace CycleSim.Toml

/-- A range of bytes of a text, the end excluded. -/
structure Span where
  start : Nat
  stop : Nat
  deriving DecidableEq, Repr

/-- A key with the place where it was written. -/
structure Key where
  name : String
  span : Span
  deriving DecidableEq, Repr

/-- A value without parts. -/
inductive Scalar where
  | integer (value : Int)
  | float (value : Binary64)
  | boolean (value : Bool)
  | string (value : String)
  | dateTime
  deriving DecidableEq, Repr

/-- A table over nodes of type `ν`. -/
structure Table (ν : Type) where
  /-- The table's bytes: from its header to its last value, or from brace to brace. -/
  span : Option Span := none
  /-- Whether the table is written between braces. -/
  inline : Bool := false
  /-- Whether the table exists only as a step on the way to another one. -/
  implicit : Bool := false
  /-- Whether the table was made by a dotted key. -/
  dotted : Bool := false
  /-- The entries in the order of the text. -/
  entries : List (Key × ν) := []
  deriving Repr

/-- A value, a table, or an array of tables. -/
inductive Node where
  | scalar (span : Span) (value : Scalar)
  | array (span : Span) (items : List Node)
  | table (table : Table Node)
  | tables (elements : List (Table Node))
  deriving Repr

namespace Table

variable {ν : Type}

/-- The node under a name. -/
def find? (table : Table ν) (name : String) : Option ν :=
  (table.entries.find? (·.1.name == name)).map (·.2)

/-- The table with a further entry at its end. -/
def push (table : Table ν) (key : Key) (node : ν) : Table ν :=
  { table with entries := table.entries ++ [(key, node)] }

/-- The table with its bytes, if it has any, reaching to the end of a value. -/
def extendTo (table : Table ν) (value : Option Span) : Table ν :=
  match table.span, value with
  | some span, some value => { table with span := some ⟨span.start, value.stop⟩ }
  | _, _ => table

/-- The table with another node under a name. -/
def replace (table : Table ν) (name : String) (node : ν) : Table ν :=
  { table with
    entries := table.entries.map fun entry =>
      if entry.1.name = name then (entry.1, node) else entry }

/-- The table without a name. -/
def erase (table : Table ν) (name : String) : Table ν :=
  { table with entries := table.entries.filter (·.1.name ≠ name) }

end Table

namespace Node

/-- The bytes of a node; an array of tables reaches from its first header to its last. -/
def span? : Node → Option Span
  | scalar span _ => some span
  | array span _ => some span
  | table t => t.span
  | tables elements =>
    match elements.head?.bind (·.span), elements.getLast?.bind (·.span) with
    | some first, some last => some ⟨first.start, last.stop⟩
    | _, _ => none

/-- What a node is called in messages. -/
def kind : Node → String
  | scalar _ (.integer _) => "integer"
  | scalar _ (.float _) => "float"
  | scalar _ (.boolean _) => "boolean"
  | scalar _ (.string _) => "string"
  | scalar _ .dateTime => "datetime"
  | array _ _ => "array"
  | table t => if t.inline then "inline table" else "table"
  | tables _ => "array of tables"

end Node

end CycleSim.Toml
