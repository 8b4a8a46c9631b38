import Mathlib.Tactic.Common
import CycleSim.FileTree.Basic

/-!
# What a written file holds

A path that can be written names a place in an existing directory, and every name before the last
leads through directories.  Writing a file changes none of them, so the path leads to the same
place afterwards and reading it gives what was written (`FileTree.readBytes_of_write`), whatever
stood there before.
-/

/-- A bind succeeds exactly if both its parts do. -/
lemma Except.bind_eq_ok_iff {ε α β : Type} {first : Except ε α} {next : α → Except ε β} {b : β} :
    first.bind next = .ok b ↔ ∃ a, first = .ok a ∧ next a = .ok b := by
  cases first <;> simp [Except.bind]

namespace CycleSim.FileTree

variable {tree : FileTree} {place written : Location} {content : ByteArray}

/-- An insertion below the root changes the entry of its place only. -/
lemma lookup_insert (below : written ≠ []) (entry : Entry) (place : Location) :
    entry? (tree.insert written entry) place =
      if place = written then some entry else tree.entry? place := by
  unfold entry? insert
  by_cases root : place = []
  · subst root
    rw [if_pos rfl, if_pos rfl, if_neg below.symm]
  rw [if_neg root, if_neg root, List.lookup_cons]
  by_cases same : place = written
  · subst same
    simp
  · rw [if_neg same, beq_eq_false_iff_ne.mpr same]
    induction tree.entries with
    | nil => rfl
    | cons head rest ih =>
      obtain ⟨other, old⟩ := head
      by_cases removed : other = written
      · subst removed
        simpa [List.lookup_cons, beq_eq_false_iff_ne.mpr same] using ih
      · simp only [List.filter_cons, removed, ne_eq, not_false_eq_true, decide_true, if_true,
          List.lookup_cons]
        cases place == other
        · exact ih
        · rfl

/-- What looking up a name finds: the directory itself, the one above it, or what stands at a
plain name below it. -/
lemma child_eq_ok_iff {name : String} {next : Location} {entry : Entry} :
    tree.child place name = .ok (next, entry) ↔
      tree.entry? place = some .directory ∧
        (name = "." ∧ next = place ∧ entry = .directory ∨
          name = ".." ∧ next = place.dropLast ∧ entry = .directory ∨
          name ≠ "." ∧ name ≠ ".." ∧ name.utf8ByteSize ≤ 255 ∧ next = place ++ [name] ∧
            tree.entry? (place ++ [name]) = some entry) := by
  unfold child
  cases tree.entry? place with
  | none => simp
  | some here =>
    cases here with
    | file => simp
    | directory =>
      by_cases dot : name = "."
      · subst dot
        simp [eq_comm]
      by_cases dots : name = ".."
      · subst dots
        simp [eq_comm]
      by_cases long : 255 < name.utf8ByteSize
      · simp [dot, dots, long, Nat.not_le.mpr long]
      · cases found : tree.entry? (place ++ [name]) <;>
          simp [dot, dots, long, Nat.not_lt.mp long, eq_comm]

/-- A name that is not found in a directory does not stand below it. -/
lemma absent_of_child_notFound {name : String} (directory : tree.entry? place = some .directory)
    (looked : tree.child place name = .error .notFound) :
    name.utf8ByteSize ≤ 255 ∧ tree.entry? (place ++ [name]) = none := by
  simp only [child, directory] at looked
  split at looked
  · cases looked
  split at looked
  · cases looked
  split at looked
  · cases looked
  rename_i short
  split at looked
  · cases looked
  rename_i absent
  exact ⟨Nat.not_lt.mp short, absent⟩

/-- A file put where no directory stands leaves the ways through directories open: a name that led
somewhere leads there still. -/
lemma exists_child_insert (content : ByteArray) (below : written ≠ [])
    (noDirectory : tree.entry? written ≠ some .directory) {name : String} {next : Location}
    {entry : Entry} (looked : tree.child place name = .ok (next, entry)) :
    ∃ entry', (tree.insert written (.file content)).child place name = .ok (next, entry') := by
  obtain ⟨directory, found⟩ := child_eq_ok_iff.mp looked
  have same : entry? (tree.insert written (.file content)) place = some .directory := by
    rw [lookup_insert below, if_neg, directory]
    rintro rfl
    exact noDirectory directory
  rcases found with dot | dots | ⟨noDot, noDots, short, rfl, found⟩
  · exact ⟨_, child_eq_ok_iff.mpr ⟨same, .inl ⟨dot.1, dot.2.1, rfl⟩⟩⟩
  · exact ⟨_, child_eq_ok_iff.mpr ⟨same, .inr (.inl ⟨dots.1, dots.2.1, rfl⟩)⟩⟩
  · obtain ⟨entry', found'⟩ : ∃ entry',
        entry? (tree.insert written (.file content)) (place ++ [name]) = some entry' := by
      rw [lookup_insert below]
      split
      · exact ⟨_, rfl⟩
      · exact ⟨_, found⟩
    exact ⟨entry', child_eq_ok_iff.mpr ⟨same, .inr (.inr ⟨noDot, noDots, short, rfl, found'⟩)⟩⟩

/-! ### Ways -/

/-- A way without names ends where it begins. -/
lemma follow_nil (tree : FileTree) (place : Location) :
    tree.follow place [] =
      match tree.entry? place with
      | some entry => .ok (place, entry)
      | none => .error .notFound := rfl

/-- A way begins with its first name. -/
lemma follow_cons (tree : FileTree) (place : Location) (name : String) (names : List String) :
    tree.follow place (name :: names) =
      (tree.child place name).bind fun found => tree.follow found.1 names := rfl

/-- A way that ends at a directory ends at the directory of its place. -/
lemma follow_nil_eq_ok_iff {dir : Location} {entry : Entry} :
    tree.follow place [] = .ok (dir, entry) ↔ place = dir ∧ tree.entry? place = some entry := by
  rw [follow_nil]
  cases tree.entry? place <;> simp

/-- A way ends at what stands at its place. -/
lemma found_of_follow {names : List String} {dir : Location} {entry : Entry}
    (followed : tree.follow place names = .ok (dir, entry)) : tree.entry? dir = some entry := by
  induction names generalizing place with
  | nil =>
    obtain ⟨rfl, found⟩ := follow_nil_eq_ok_iff.mp followed
    exact found
  | cons name names ih =>
    rw [follow_cons] at followed
    obtain ⟨_, -, followed⟩ := Except.bind_eq_ok_iff.mp followed
    exact ih followed

/-- A way that led to a directory leads there still. -/
lemma follow_insert (content : ByteArray) (below : written ≠ [])
    (noDirectory : tree.entry? written ≠ some .directory) {names : List String} {dir : Location}
    (followed : tree.follow place names = .ok (dir, .directory)) :
    (tree.insert written (.file content)).follow place names = .ok (dir, .directory) := by
  induction names generalizing place with
  | nil =>
    obtain ⟨rfl, found⟩ := follow_nil_eq_ok_iff.mp followed
    refine follow_nil_eq_ok_iff.mpr ⟨rfl, ?_⟩
    rw [lookup_insert below, if_neg, found]
    rintro rfl
    exact noDirectory found
  | cons name names ih =>
    rw [follow_cons] at followed ⊢
    obtain ⟨⟨next, entry⟩, looked, followed⟩ := Except.bind_eq_ok_iff.mp followed
    obtain ⟨entry', looked'⟩ := exists_child_insert content below noDirectory looked
    exact Except.bind_eq_ok_iff.mpr ⟨_, looked', ih followed⟩

/-- A way that ends at a directory goes on with a name that is looked up there. -/
lemma follow_concat {names : List String} {name : String} {dir next : Location}
    {entry entry' : Entry}
    (followed : tree.follow place names = .ok (dir, entry))
    (looked : tree.child dir name = .ok (next, entry'))
    (found : tree.entry? next = some entry') :
    tree.follow place (names ++ [name]) = .ok (next, entry') := by
  induction names generalizing place with
  | nil =>
    obtain ⟨rfl, -⟩ := follow_nil_eq_ok_iff.mp followed
    rw [List.nil_append, follow_cons]
    exact Except.bind_eq_ok_iff.mpr ⟨_, looked, follow_nil_eq_ok_iff.mpr ⟨rfl, found⟩⟩
  | cons first names ih =>
    rw [follow_cons] at followed
    obtain ⟨⟨middle, _⟩, step, followed⟩ := Except.bind_eq_ok_iff.mp followed
    rw [List.cons_append, follow_cons]
    exact Except.bind_eq_ok_iff.mpr ⟨_, step, ih followed⟩

/-- Where a path can be written: at a plain name in a directory to which the names before it lead,
unless a directory stands there. -/
structure Writable (tree : FileTree) (path : Path) (dir : Location) (name : String) : Prop where
  followed : tree.follow (tree.start path) path.names.dropLast = .ok (dir, .directory)
  names_eq : path.names = path.names.dropLast ++ [name]
  noSlash : path.trailingSlash = false
  noDot : name ≠ "."
  noDots : name ≠ ".."
  short : name.utf8ByteSize ≤ 255
  noDirectory : tree.entry? (dir ++ [name]) ≠ some .directory

/-- The directory above a path's last name is one to which the names before it lead. -/
lemma follow_of_holder {path : Path} {dir : Location} (held : tree.holder path = .ok dir) :
    tree.follow (tree.start path) path.names.dropLast = .ok (dir, .directory) := by
  obtain ⟨⟨place, entry⟩, followed, held⟩ := Except.bind_eq_ok_iff.mp held
  cases entry with
  | file => cases held
  | directory => cases held; exact followed

/-- A path that can be opened for writing names such a place. -/
lemma exists_writable {text : String} (opened : tree.writablePlace text = .ok written) :
    ∃ path dir name, checkPath text = .ok path ∧ tree.Writable path dir name ∧
      written = dir ++ [name] := by
  obtain ⟨path, checked, opened⟩ := Except.bind_eq_ok_iff.mp opened
  obtain ⟨dir, held, opened⟩ := Except.bind_eq_ok_iff.mp opened
  have followed := follow_of_holder held
  split at opened
  · cases opened
  rename_i name last
  split at opened
  · cases opened
  rename_i plain
  obtain ⟨noDot, noDots, noSlash⟩ : name ≠ "." ∧ name ≠ ".." ∧ path.trailingSlash = false := by
    simpa using plain
  obtain ⟨front, names_eq⟩ := List.getLast?_eq_some_iff.mp last
  have names_eq : path.names = path.names.dropLast ++ [name] := by
    rw [names_eq, List.dropLast_concat]
  have standing : written = dir ++ [name] ∧ name.utf8ByteSize ≤ 255 ∧
      tree.entry? (dir ++ [name]) ≠ some .directory := by
    split at opened
    · rename_i place content looked
      cases opened
      obtain ⟨-, dot | dots | ⟨-, -, short, rfl, found⟩⟩ := child_eq_ok_iff.mp looked
      · exact absurd dot.1 noDot
      · exact absurd dots.1 noDots
      · exact ⟨rfl, short, by rw [found]; nofun⟩
    · cases opened
    · rename_i looked
      cases opened
      obtain ⟨short, absent⟩ := absent_of_child_notFound (found_of_follow followed) looked
      exact ⟨rfl, short, by rw [absent]; nofun⟩
    · cases opened
  obtain ⟨rfl, short, noDirectory⟩ := standing
  exact ⟨path, dir, name, checked, ⟨followed, names_eq, noSlash, noDot, noDots, short, noDirectory⟩,
    rfl⟩

/-- Where a file was put that a path names, the path leads to that file. -/
lemma Writable.follow {path : Path} {dir : Location} {name : String}
    (writable : tree.Writable path dir name) (content : ByteArray) :
    (tree.insert (dir ++ [name]) (.file content)).follow
        ((tree.insert (dir ++ [name]) (.file content)).start path) path.names =
      .ok (dir ++ [name], .file content) := by
  have below : dir ++ [name] ≠ [] := List.append_ne_nil_of_right_ne_nil dir (List.cons_ne_nil _ _)
  have followed := follow_insert content below writable.noDirectory writable.followed
  have found : entry? (tree.insert (dir ++ [name]) (.file content)) (dir ++ [name]) =
      some (.file content) := by
    rw [lookup_insert below, if_pos rfl]
  have looked := child_eq_ok_iff.mpr ⟨found_of_follow followed,
    .inr (.inr ⟨writable.noDot, writable.noDots, writable.short, rfl, found⟩)⟩
  rw [writable.names_eq]
  exact follow_concat followed looked found

/-- Only the last of two insertions at one place counts. -/
lemma insert_insert (place : Location) (entry other : Entry) :
    (tree.insert place entry).insert place other = tree.insert place other := by
  simp [insert]

/-- Where a path can be opened for writing, opening it leaves an empty file there. -/
lemma create_of_writablePlace {text : String} (opened : tree.writablePlace text = .ok written) :
    tree.create text = .ok (written, tree.insert written (.file .empty)) := by
  rw [create, opened]
  rfl

/-- Where it cannot, the reason is that of the opening. -/
lemma create_of_refused {text : String} {cause : FileError}
    (refused : tree.writablePlace text = .error cause) : tree.create text = .error cause := by
  rw [create, refused]
  rfl

/-- Where a path can be opened for writing, anything can be written to it. -/
lemma write_of_writablePlace {text : String} (opened : tree.writablePlace text = .ok written)
    (content : ByteArray) :
    tree.write text content = .ok (tree.insert written (.file content)) := by
  rw [write, create_of_writablePlace opened]
  exact congrArg Except.ok (insert_insert written _ _)

/-- Whether a path can be written, and why not, does not depend on what is written. -/
lemma write_eq_error_iff {text : String} {cause : FileError} :
    tree.write text content = .error cause ↔ tree.writablePlace text = .error cause := by
  cases opened : tree.writablePlace text with
  | error refusal =>
    rw [write, create_of_refused opened]
    show (Except.error refusal : Except FileError FileTree) = _ ↔ _
    rw [Except.error.injEq, Except.error.injEq]
  | ok place =>
    rw [write_of_writablePlace opened]
    exact ⟨nofun, nofun⟩

/-- A file put at a place that was opened for writing is what the path names, whatever stood
there. -/
theorem readBytes_insert {text : String} (opened : tree.writablePlace text = .ok written)
    (content : ByteArray) :
    (tree.insert written (.file content)).readBytes text = .ok content := by
  obtain ⟨path, dir, name, checked, writable, rfl⟩ := exists_writable opened
  have resolved : (tree.insert (dir ++ [name]) (.file content)).resolve text =
      .ok (dir ++ [name], .file content) := by
    refine Except.bind_eq_ok_iff.mpr ⟨path, checked, ?_⟩
    refine Except.bind_eq_ok_iff.mpr ⟨_, writable.follow content, ?_⟩
    rw [writable.noSlash]
    rfl
  exact Except.bind_eq_ok_iff.mpr ⟨_, resolved, rfl⟩

/-- A file that was written holds what was written, whatever it held before. -/
theorem readBytes_of_write {text : String} {after : FileTree}
    (write : tree.write text content = .ok after) : after.readBytes text = .ok content := by
  cases opened : tree.writablePlace text with
  | error refusal => exact nomatch (write_eq_error_iff.mpr opened).symm.trans write
  | ok place =>
    rw [write_of_writablePlace opened] at write
    cases write
    exact readBytes_insert opened content

end CycleSim.FileTree
