import CycleSim.Proofs.Toml.Reading
import CycleSim.Toml.Document

/-!
# Documents are well formed

Statements are folded into a tree that stays well formed (`wellFormed_of_parse?`).  The step that
needs more than the tree itself is the closing of a table: it joins the tree under its name without
a look-up, because that name was free when the table was opened.  The invariant of the fold
therefore says that the place of the open table is free (`Assembly.WellFormed.free`), and `Table.At`
says what holds of the table that a path leads to.
-/

namespace CycleSim.Toml

namespace Table

/-- Whether the table that a path leads to, if it leads to one, satisfies `P`. -/
def At (P : Table Node → Prop) : List Key → Table Node → Prop
  | [], table => P table
  | key :: path, table =>
    match table.find? key.name with
    | some (.table inner) => At P path inner
    | some (.tables elements) => ∀ last ∈ elements.getLast?, At P path last
    | _ => True

/-- What every table satisfies holds wherever a path leads. -/
lemma at_of_forall {P : Table Node → Prop} (holds : ∀ table, P table) (path : List Key)
    (table : Table Node) : table.At P path := by
  fun_induction At P path table with
  | case1 table => exact holds table
  | case2 _ _ _ _ _ ih => exact ih
  | case3 _ _ _ _ _ ih => exact fun last _ => ih last
  | case4 => trivial

/-- What a table without entries satisfies holds wherever a path leads from there. -/
lemma at_of_entries_eq_nil {P : Table Node → Prop} {table : Table Node}
    (empty : table.entries = []) (holds : P table) (path : List Key) : table.At P path := by
  cases path with
  | nil => exact holds
  | cons key path =>
    have none_found : table.find? key.name = none := by simp [find?, empty]
    simp only [At, none_found]

section Within

variable {α : Type} {P Q : Table Node → Prop} {R : α → Prop}
  {action : Table Node → Option (α × Table Node)}

/-- An action at the end of a path keeps a tree well formed if it keeps the table there so.  What it
says of that table and of its result holds afterwards. -/
lemma WellFormed.within (fresh : ∀ table, table.entries = [] → P table)
    (keeps : ∀ table result table', table.WellFormed → P table →
      action table = some (result, table') → table'.WellFormed ∧ Q table' ∧ R result)
    {dotted : Bool} {path : List Key} {table table' : Table Node} {result : α}
    (wf : table.WellFormed) (here : table.At P path)
    (done : table.within dotted action path = some (result, table')) :
    table'.WellFormed ∧ table'.At Q path ∧ R result := by
  induction path generalizing table table' result with
  | nil => exact keeps _ _ _ wf here done
  | cons key path ih =>
    rw [Table.within] at done
    cases found : table.find? key.name with
    | none =>
      rw [found] at done
      obtain ⟨⟨value, inner⟩, deeper, same⟩ := Option.bind_eq_some_iff.mp done
      cases same
      obtain ⟨wf', here', holds⟩ := ih (.of_entries_eq_nil rfl)
        (at_of_entries_eq_nil rfl (fresh _ rfl) path) deeper
      exact ⟨wf.push found wf', by simpa only [At, find?_push found] using here', holds⟩
    | some node =>
      rw [found] at done
      simp only [At, found] at here
      cases node with
      | scalar => cases done
      | array => cases done
      | table inner =>
        dsimp only at done
        split at done
        · cases done
        · obtain ⟨⟨value, inner'⟩, deeper, same⟩ := Option.bind_eq_some_iff.mp done
          cases same
          obtain ⟨wf', here', holds⟩ := ih (wf.of_find? found) here deeper
          exact ⟨wf.replace wf', by simpa only [At, find?_replace found] using here', holds⟩
      | tables elements =>
        obtain ⟨last, isLast, rest⟩ := Option.bind_eq_some_iff.mp done
        obtain ⟨⟨value, last'⟩, deeper, same⟩ := Option.bind_eq_some_iff.mp rest
        cases same
        have all := (wf.of_find? found).elements
        obtain ⟨wf', here', holds⟩ :=
          ih (all last (List.mem_of_getLast? isLast)) (here last isLast) deeper
        have others : ∀ element ∈ elements.dropLast, element.WellFormed :=
          fun element front => all element (List.dropLast_subset _ front)
        have all' := List.forall_mem_append.mpr ⟨others, List.forall_mem_singleton.mpr wf'⟩
        refine ⟨wf.replace (.tables all'), ?_, holds⟩
        simpa [At, find?_replace found] using here'

/-- An action that keeps every table well formed may be taken anywhere in a tree. -/
lemma WellFormed.within_of_keeps (keeps : ∀ table result table', table.WellFormed →
      action table = some (result, table') → table'.WellFormed)
    {dotted : Bool} {path : List Key} {table table' : Table Node} {result : α}
    (wf : table.WellFormed) (done : table.within dotted action path = some (result, table')) :
    table'.WellFormed :=
  (wf.within (P := fun _ => True) (Q := fun _ => True) (R := fun _ => True) (fun _ _ => trivial)
    (fun _ _ _ wf _ acted => ⟨keeps _ _ _ wf acted, trivial, trivial⟩)
    (at_of_forall (fun _ => trivial) path table) done).1

end Within

/-- An assignment under a free name keeps a table well formed. -/
lemma WellFormed.assign {path : List Key} {node : Node} {table table' : Table Node}
    (wf : table.WellFormed) (added : node.WellFormed)
    (assigned : table.assign path node = some table') : table'.WellFormed := by
  obtain ⟨key, -, rest⟩ := Option.bind_eq_some_iff.mp assigned
  obtain ⟨⟨_, reached⟩, done, same⟩ := Option.bind_eq_some_iff.mp rest
  cases same
  refine wf.within_of_keeps (fun inner _ inner' wf pushed => ?_) done
  split at pushed
  · cases pushed
  · rename_i free
    cases pushed
    refine wf.push ?_ added
    exact (by simpa using free : _ ∧ inner.find? key.name = none).2

end Table

namespace Assembly

/-- Whether the tree and the open table of a document under construction are well formed, and the
place of the open table is free. -/
structure WellFormed (assembly : Assembly) : Prop where
  tree : assembly.tree.WellFormed
  current : assembly.current.WellFormed
  free : assembly.isElement = false → ∀ key ∈ assembly.path.getLast?,
    assembly.tree.At (·.find? key.name = none) assembly.path.dropLast

/-- A document begins well formed. -/
lemma wellFormed_start : ({} : Assembly).WellFormed where
  tree := .of_entries_eq_nil rfl
  current := .of_entries_eq_nil rfl
  free _ := by simp

variable {assembly assembly' : Assembly}

/-- Closing the open table leaves a well-formed tree. -/
lemma WellFormed.close (wf : assembly.WellFormed) {tree : Table Node}
    (closed : assembly.close = some tree) : tree.WellFormed := by
  rw [Assembly.close] at closed
  split at closed
  · cases closed
    exact wf.current
  · rename_i key isLast
    obtain ⟨⟨_, reached⟩, done, same⟩ := Option.bind_eq_some_iff.mp closed
    cases same
    cases kind : assembly.isElement with
    | true =>
      simp only [kind] at done
      refine wf.tree.within_of_keeps (fun parent _ parent' wf' added => ?_) done
      rw [if_pos trivial] at added
      split at added
      · rename_i elements found
        cases added
        have all := (wf'.of_find? found).elements
        exact wf'.replace (.tables (List.forall_mem_append.mpr
          ⟨all, List.forall_mem_singleton.mpr wf.current⟩))
      · cases added
    | false =>
      simp only [kind] at done
      have free := wf.free kind key isLast
      refine (wf.tree.within (Q := fun _ => True) (R := fun _ => True) ?_ ?_ free done).1
      · intro table empty
        simp [Table.find?, empty]
      · rintro parent _ parent' wf' free ⟨⟩
        exact ⟨wf'.push free wf.current, trivial, trivial⟩

/-- Opening a table keeps the document well formed: its name is not in the tree any more. -/
lemma WellFormed.openTable (wf : assembly.WellFormed) {path : List Key} {span : Span}
    (opened : assembly.openTable path span = some assembly') : assembly'.WellFormed := by
  obtain ⟨tree, closed, rest⟩ := Option.bind_eq_some_iff.mp opened
  obtain ⟨key, isLast, rest⟩ := Option.bind_eq_some_iff.mp rest
  obtain ⟨⟨entries, tree'⟩, done, same⟩ := Option.bind_eq_some_iff.mp rest
  cases same
  have trees := (wf.close closed).within (P := fun _ => True)
    (Q := fun parent => parent.find? key.name = none)
    (R := fun entries => ({ entries } : Table Node).WellFormed) (fun _ _ => trivial) ?_
    (Table.at_of_forall (fun _ => trivial) _ _) done
  · obtain ⟨wf', free, current⟩ := trees
    refine ⟨wf', current.of_entries_eq rfl, fun _ key' isLast' => ?_⟩
    obtain rfl : key = key' := Option.some.inj (isLast.symm.trans isLast')
    exact free
  · intro parent entries parent' wf _ taken
    split at taken
    · rename_i free
      cases taken
      exact ⟨wf, free, .of_entries_eq_nil rfl⟩
    · rename_i inner found
      split at taken
      · cases taken
        have below : inner.WellFormed := wf.of_find? found
        exact ⟨wf.erase, Table.find?_erase, below.of_entries_eq rfl⟩
      · cases taken
    · cases taken

/-- Opening an element of an array of tables keeps the document well formed. -/
lemma WellFormed.openElement (wf : assembly.WellFormed) {path : List Key} {span : Span}
    (opened : assembly.openElement path span = some assembly') : assembly'.WellFormed := by
  obtain ⟨tree, closed, rest⟩ := Option.bind_eq_some_iff.mp opened
  obtain ⟨key, isLast, rest⟩ := Option.bind_eq_some_iff.mp rest
  obtain ⟨⟨_, tree'⟩, done, same⟩ := Option.bind_eq_some_iff.mp rest
  cases same
  refine ⟨(wf.close closed).within_of_keeps (fun parent _ parent' wf added => ?_) done,
    .of_entries_eq_nil rfl, nofun⟩
  split at added
  · rename_i free
    cases added
    exact wf.push free (.tables (by simp))
  · cases added
    exact wf
  · cases added

/-- A statement keeps the document well formed. -/
lemma WellFormed.add (wf : assembly.WellFormed) {statement : Statement}
    (read : statement.WellFormed) (added : assembly.add statement = some assembly') :
    assembly'.WellFormed := by
  cases statement with
  | assign path node =>
    obtain ⟨current, assigned, same⟩ := Option.bind_eq_some_iff.mp added
    cases same
    have extended : (assembly.current.extendTo node.span?).WellFormed := by
      refine wf.current.of_entries_eq ?_
      unfold Table.extendTo
      split <;> rfl
    exact ⟨wf.tree, extended.assign read assigned, wf.free⟩
  | openTable path span => exact wf.openTable added
  | openElement path span => exact wf.openElement added

end Assembly

/-- Documents are well formed. -/
theorem wellFormed_of_parse? {text : String} {document : Table Node}
    (parsed : parse? text = some document) : document.WellFormed := by
  obtain ⟨statements, read, rest⟩ := Option.bind_eq_some_iff.mp parsed
  obtain ⟨assembly, folded, closed⟩ := Option.bind_eq_some_iff.mp rest
  obtain ⟨⟨_, after⟩, taken, rfl⟩ := Option.map_eq_some_iff.mp read
  have all := Reader.gives_statements _ _ _ taken
  have built : assembly.WellFormed :=
    List.foldlM_keeps (I := Assembly.WellFormed) (fun _ statement _ mem wf added =>
      wf.add (all statement mem) added) Assembly.wellFormed_start folded
  exact built.close closed

end CycleSim.Toml
