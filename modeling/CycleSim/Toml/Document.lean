import CycleSim.Toml.Statement

/-!
# Documents

`parse?` reads a text as one tree of tables.  Statements are folded into the tree: an
assignment goes to the table opened last, and an opened table joins the tree when the next header
or the end of the text closes it.  A table may be opened once, though its subtables may be opened
before it; a key may be assigned once; tables made by dotted keys, by headers and by braces do not
mix.
-/

namespace CycleSim.Toml

namespace Table

/-- Runs `action` on the table that `path` leads to from here, making the steps that do not exist.
A step into an array of tables goes to its last element.  Dotted keys may pass only through tables
that have no header of their own. -/
def within {α : Type} (dotted : Bool) (action : Table Node → Option (α × Table Node)) :
    List Key → Table Node → Option (α × Table Node)
  | [], table => action table
  | key :: path, table =>
    match table.find? key.name with
    | none => do
      let (result, inner) ← within dotted action path { implicit := true, dotted := dotted }
      some (result, table.push key (.table inner))
    | some (.table inner) => do
      if inner.inline || (dotted && !inner.implicit) then none
      else
        let (result, inner) ← within dotted action path inner
        some (result, table.replace key.name (.table inner))
    | some (.tables elements) => do
      let (result, last) ← within dotted action path (← elements.getLast?)
      some (result, table.replace key.name (.tables (elements.dropLast ++ [last])))
    | some _ => none

/-- Assigns a node to the last name of a dotted key. -/
def assign (path : List Key) (node : Node) (table : Table Node) : Option (Table Node) := do
  let key ← path.getLast?
  let parents := path.dropLast
  let (_, table) ← table.within true
    (fun inner =>
      if inner.dotted == parents.isEmpty || (inner.find? key.name).isSome then none
      else some ((), inner.push key node))
    parents
  some table

end Table

/-- A document under construction: the tree of closed tables, and the open table with the path and
the kind of its header.  The table that is open at first has no header and begins with the text. -/
structure Assembly where
  tree : Table Node := {}
  current : Table Node := { span := some ⟨0, 0⟩ }
  path : List Key := []
  isElement : Bool := false

namespace Assembly

/-- Closes the open table: it joins the tree at its path. -/
def close (assembly : Assembly) : Option (Table Node) :=
  match assembly.path.getLast? with
  | none => some assembly.current
  | some key => do
    let (_, tree) ← assembly.tree.within false
      (fun parent =>
        if assembly.isElement then
          match parent.find? key.name with
          | some (.tables elements) =>
            some ((), parent.replace key.name (.tables (elements ++ [assembly.current])))
          | _ => none
        else some ((), parent.push key (.table assembly.current)))
      assembly.path.dropLast
    some tree

/-- Opens a table.  One that exists as a mere step to its subtables is taken out of the tree and
goes on as the open table. -/
def openTable (assembly : Assembly) (path : List Key) (span : Span) : Option Assembly := do
  let tree ← assembly.close
  let key ← path.getLast?
  let (entries, tree) ← tree.within false
    (fun parent =>
      match parent.find? key.name with
      | none => some ([], parent)
      | some (.table inner) =>
        if inner.implicit && !inner.dotted then some (inner.entries, parent.erase key.name)
        else none
      | some _ => none)
    path.dropLast
  some { tree, path, current := { span := some span, entries }, isElement := false }

/-- Opens a further element of an array of tables. -/
def openElement (assembly : Assembly) (path : List Key) (span : Span) : Option Assembly := do
  let tree ← assembly.close
  let key ← path.getLast?
  let (_, tree) ← tree.within false
    (fun parent =>
      match parent.find? key.name with
      | none => some ((), parent.push key (.tables []))
      | some (.tables _) => some ((), parent)
      | some _ => none)
    path.dropLast
  some { tree, path, current := { span := some span }, isElement := true }

/-- Takes one statement into the document. -/
def add (assembly : Assembly) : Statement → Option Assembly
  | .assign path node => do
    some { assembly with current := ← (assembly.current.extendTo node.span?).assign path node }
  | .openTable path span => assembly.openTable path span
  | .openElement path span => assembly.openElement path span

end Assembly

/-- The tree of a text, or `none` if the text is not a TOML document. -/
def parse? (text : String) : Option (Table Node) := do
  let statements ← Statement.readAll text
  let assembly ← statements.foldlM Assembly.add {}
  assembly.close

end CycleSim.Toml
