import CycleSim.Proofs.FileTree.Writing

/-!
# What making directories leaves

A tree extends another if all that stands somewhere in the other stands there still; ways then lead
where they led.  Making a directory with the missing ones above it extends the tree by directories
to which these paths lead, and by nothing else (`addsDirectories_makeDirectories`), also where it
fails half-way.  So no file is made, changed or lost (`AddsDirectories.file_iff`).
-/

namespace CycleSim.FileTree

variable {tree before between after : FileTree} {paths : List Path}

/-- All that stands somewhere in the one tree stands there in the other. -/
structure Extends (before after : FileTree) : Prop where
  workingDirectory_eq : after.workingDirectory = before.workingDirectory
  kept : ∀ {place entry}, before.entry? place = some entry → after.entry? place = some entry

/-- A name that is found is found in every extension. -/
lemma Extends.child (ext : Extends before after) {place next : Location} {name : String}
    {entry : Entry} (looked : before.child place name = .ok (next, entry)) :
    after.child place name = .ok (next, entry) := by
  obtain ⟨directory, found⟩ := child_eq_ok_iff.mp looked
  refine child_eq_ok_iff.mpr ⟨ext.kept directory, ?_⟩
  rcases found with dot | dots | ⟨noDot, noDots, short, next_eq, found⟩
  · exact .inl dot
  · exact .inr (.inl dots)
  · exact .inr (.inr ⟨noDot, noDots, short, next_eq, ext.kept found⟩)

/-- A way leads in every extension where it led. -/
lemma Extends.follow (ext : Extends before after) {names : List String} {place next : Location}
    {entry : Entry} (followed : before.follow place names = .ok (next, entry)) :
    after.follow place names = .ok (next, entry) := by
  induction names generalizing place with
  | nil =>
    obtain ⟨rfl, found⟩ := follow_nil_eq_ok_iff.mp followed
    exact follow_nil_eq_ok_iff.mpr ⟨rfl, ext.kept found⟩
  | cons name names ih =>
    rw [follow_cons] at followed ⊢
    obtain ⟨⟨middle, here⟩, looked, followed⟩ := Except.bind_eq_ok_iff.mp followed
    exact Except.bind_eq_ok_iff.mpr ⟨_, ext.child looked, ih followed⟩

/-- The path leads to a directory at that place. -/
def LeadsTo (tree : FileTree) (path : Path) (place : Location) : Prop :=
  tree.follow (tree.start path) path.names = .ok (place, .directory)

/-- A path leads in every extension where it led. -/
lemma Extends.leadsTo (ext : Extends before after) {path : Path} {place : Location}
    (leads : before.LeadsTo path place) : after.LeadsTo path place := by
  unfold LeadsTo start at leads ⊢
  rw [ext.workingDirectory_eq]
  exact ext.follow leads

/-- The second tree has what the first has, and apart from that only directories to which some of
the paths lead. -/
structure AddsDirectories (paths : List Path) (before after : FileTree) : Prop
    extends Extends before after where
  added : ∀ {place entry}, after.entry? place = some entry → before.entry? place = none →
    entry = .directory ∧ ∃ path ∈ paths, after.LeadsTo path place

/-- Nothing is added to a tree to make it itself. -/
lemma AddsDirectories.refl (paths : List Path) (tree : FileTree) :
    AddsDirectories paths tree tree where
  workingDirectory_eq := rfl
  kept found := found
  added found absent := nomatch found.symm.trans absent

/-- Directories may be added to directories. -/
lemma AddsDirectories.trans (first : AddsDirectories paths before between)
    (second : AddsDirectories paths between after) : AddsDirectories paths before after where
  workingDirectory_eq := second.workingDirectory_eq.trans first.workingDirectory_eq
  kept found := second.kept (first.kept found)
  added {place entry} found absent := by
    cases middle : between.entry? place with
    | none => exact second.added found middle
    | some entry' =>
      obtain rfl := Option.some.inj ((second.kept middle).symm.trans found)
      obtain ⟨directory, path, mem, leads⟩ := first.added middle absent
      exact ⟨directory, path, mem, second.toExtends.leadsTo leads⟩

/-- More paths lead to no fewer directories. -/
lemma AddsDirectories.mono (adds : AddsDirectories paths before after) {more : List Path}
    (subset : paths ⊆ more) : AddsDirectories more before after where
  toExtends := adds.toExtends
  added found absent := by
    obtain ⟨directory, path, mem, leads⟩ := adds.added found absent
    exact ⟨directory, path, subset mem, leads⟩

/-- A file stands where it stood before, with what it held, and nowhere else. -/
lemma AddsDirectories.file_iff (adds : AddsDirectories paths before after) {place : Location}
    {content : ByteArray} :
    after.entry? place = some (.file content) ↔ before.entry? place = some (.file content) := by
  refine ⟨fun found => ?_, adds.kept⟩
  cases stood : before.entry? place with
  | none => cases (adds.added found stood).1
  | some entry => exact (adds.kept stood).symm.trans found

/-! ### Making directories -/

/-- What is put where nothing stands extends the tree. -/
lemma extends_insert {place : Location} (absent : tree.entry? place = none) (entry : Entry) :
    Extends tree (tree.insert place entry) where
  workingDirectory_eq := rfl
  kept {other found} stands := by
    have below : place ≠ [] := by
      rintro rfl
      exact nomatch absent
    rw [lookup_insert below, if_neg]
    · exact stands
    · rintro rfl
      exact nomatch stands.symm.trans absent

/-- A name that is not found in a directory is a plain one. -/
lemma plain_of_child_notFound {place : Location} {name : String}
    (directory : tree.entry? place = some .directory)
    (looked : tree.child place name = .error .notFound) : name ≠ "." ∧ name ≠ ".." := by
  constructor
  · rintro rfl
    have found := child_eq_ok_iff.mpr ⟨directory, .inl ⟨rfl, rfl, rfl⟩⟩
    exact nomatch found.symm.trans looked
  · rintro rfl
    have found := child_eq_ok_iff.mpr ⟨directory, .inr (.inl ⟨rfl, rfl, rfl⟩)⟩
    exact nomatch found.symm.trans looked

/-- A directory that is made is one to which its path leads. -/
lemma addsDirectories_makeDirectory {path : Path} (made : tree.makeDirectory path = .ok after) :
    AddsDirectories [path] tree after := by
  obtain ⟨dir, held, made⟩ := Except.bind_eq_ok_iff.mp made
  have followed := follow_of_holder held
  have directory := found_of_follow followed
  split at made
  · cases made
  rename_i name last
  split at made
  · cases made
  · rename_i looked
    cases made
    obtain ⟨short, absent⟩ := absent_of_child_notFound directory looked
    obtain ⟨noDot, noDots⟩ := plain_of_child_notFound directory looked
    have ext := extends_insert absent .directory
    have below : dir ++ [name] ≠ [] :=
      List.append_ne_nil_of_right_ne_nil dir (List.cons_ne_nil _ _)
    refine { ext with added := fun {place entry} found absent => ?_ }
    rw [lookup_insert below] at found
    split at found
    · rename_i here
      subst here
      refine ⟨(Option.some.inj found).symm, path, List.mem_singleton_self path, ?_⟩
      have stands : entry? (tree.insert (dir ++ [name]) .directory) (dir ++ [name]) =
          some .directory := by
        rw [lookup_insert below, if_pos rfl]
      have looked' := child_eq_ok_iff.mpr ⟨ext.kept directory,
        .inr (.inr ⟨noDot, noDots, short, rfl, stands⟩)⟩
      obtain ⟨front, names_eq⟩ := List.getLast?_eq_some_iff.mp last
      rw [names_eq, List.dropLast_concat] at followed
      rw [LeadsTo, names_eq]
      exact follow_concat (ext.follow followed) looked' stands
    · exact nomatch found.symm.trans absent
  · cases made

/-- Making a chain of directories adds some of them, whether or not it succeeds. -/
lemma addsDirectories_makeChain (tree : FileTree) (paths : List Path) :
    AddsDirectories paths tree (tree.makeChain paths).2 := by
  induction paths generalizing tree with
  | nil => exact .refl [] tree
  | cons path above ih =>
    have self {tree after : FileTree} (made : tree.makeDirectory path = .ok after) :
        AddsDirectories (path :: above) tree after :=
      (addsDirectories_makeDirectory made).mono (List.cons_subset_cons path (List.nil_subset above))
    have chain := (ih tree).mono (List.subset_cons_self path above)
    unfold makeChain
    split
    · exact self ‹_›
    · split
      · rename_i failed
        rwa [failed] at chain
      · rename_i reached
        rw [reached] at chain
        split
        · exact chain.trans (self ‹_›)
        · exact chain
    · exact .refl _ tree

/-- A path text that is not refused is read as it stands. -/
lemma eq_ofString_of_checkPath {text : String} {path : Path} (checked : checkPath text = .ok path) :
    path = Path.ofString text := by
  unfold checkPath at checked
  split at checked
  · cases checked
  split at checked
  · cases checked
  split at checked
  · cases checked
  exact (Except.ok.inj checked).symm

/-- The path of a directory, with the paths of the directories above it. -/
def directoryPaths (text : String) : List Path :=
  Path.ofString text :: (Path.ofString text).ancestors

/-- Making a directory with all above it adds some of these directories, whether or not it
succeeds. -/
theorem addsDirectories_makeDirectories (tree : FileTree) (text : String) :
    AddsDirectories (directoryPaths text) tree (tree.makeDirectories text).2 := by
  unfold makeDirectories
  split
  · exact .refl _ tree
  · split
    · exact .refl _ tree
    · rename_i path checked
      rw [eq_ofString_of_checkPath checked]
      exact addsDirectories_makeChain tree _

end CycleSim.FileTree
