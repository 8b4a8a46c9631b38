import Mathlib.Data.List.Pairwise
import CycleSim.Config.Decode
import CycleSim.Proofs.Toml.WellFormed

/-!
# Sections field by field

A section of the settings is a record that is filled by folding over the entries of a table.  A
`Field` is one setting of it: the name, the decoder and the update that the fold works with, and the
part of the record that the update sets.  If the fields of a section have different names and parts
(`Fields`), then the order of the entries does not matter: the record that a table with distinct
names is decoded to holds in each field what the decoder makes of the entry of that name, or what it
held at first (`Fields.fieldsOf_eq_ok_iff`).
-/

/-- Look-ups by name in a list of named values give the values of that name, if it has only one. -/
lemma List.lookup_named_eq_some_iff {ι β : Type*} {items : List ι} {name : ι → String}
    {value : ι → β} (unique : ∀ i ∈ items, ∀ j ∈ items, name i = name j → value i = value j)
    {text : String} {b : β} : (items.map fun i => (name i, value i)).lookup text = some b ↔
      ∃ i ∈ items, name i = text ∧ value i = b := by
  have mem_of_found {b : β} (found : (items.map fun i => (name i, value i)).lookup text = some b) :
      ∃ i ∈ items, name i = text ∧ value i = b := by
    obtain ⟨before, after, split, -⟩ := List.lookup_eq_some_iff.mp found
    have mem : (text, b) ∈ items.map fun i => (name i, value i) := by
      rw [split]
      simp
    simpa using mem
  refine ⟨mem_of_found, ?_⟩
  rintro ⟨i, mem, rfl, rfl⟩
  cases found : (items.map fun i => (name i, value i)).lookup (name i) with
  | none => simpa using List.lookup_eq_none_iff.mp found _ (List.mem_map_of_mem mem)
  | some other =>
    obtain ⟨j, mem', same, rfl⟩ := mem_of_found found
    rw [unique j mem' i mem same]

namespace CycleSim

open Toml (Node Table Key Mismatch)

/-- The place that a refusal gets does not decide whether there is one. -/
lemma Toml.Node.placing_eq_ok_iff {α : Type} {node : Node} {result : Except Mismatch α}
    {value : α} : node.placing result = .ok value ↔ result = .ok value := by
  cases result <;> simp [placing, Except.mapError]

/-- A setting of a section: its name, how its value is decoded and put in, and what it sets. -/
structure Field (σ : Type) where
  name : String
  {α β : Type}
  decode : Node → Except Mismatch α
  update : α → σ → σ
  part : σ → β
  /-- What the part is after an update. -/
  kept : α → β
  part_update : ∀ value record, part (update value record) = kept value

namespace Field

variable {σ : Type}

/-- The pair of the name and the update that a section is decoded with. -/
def entry (f : Field σ) : String × (Node → σ → Except Mismatch σ) :=
  (f.name, setting f.decode f.update)

/-- What a part may be after its setting was looked up: what it was, if there is no node, and else
what the node is decoded to. -/
def Reads (f : Field σ) (unset : f.β) : Option Node → f.β → Prop
  | none, part => part = unset
  | some node, part => ∃ value, f.decode node = .ok value ∧ part = f.kept value

/-- Whether two settings have different names and leave the parts of each other alone. -/
def Apart (f g : Field σ) : Prop :=
  f.name ≠ g.name ∧ (∀ value record, f.part (g.update value record) = f.part record) ∧
    ∀ value record, g.part (f.update value record) = g.part record

instance : Std.Symm (@Apart σ) where
  symm _ _ apart := ⟨apart.1.symm, apart.2.2, apart.2.1⟩

/-- A setting that always has a value. -/
def required {α : Type} (name : String) (decode : Node → Except Mismatch α)
    (update : α → σ → σ) (part : σ → α)
    (part_update : ∀ value record, part (update value record) = value) : Field σ where
  name; decode; update; part; part_update
  kept := id

/-- A setting that may be absent. -/
def optional {α : Type} (name : String) (decode : Node → Except Mismatch α)
    (update : α → σ → σ) (part : σ → Option α)
    (part_update : ∀ value record, part (update value record) = some value) : Field σ where
  name; decode; update; part; part_update
  kept := some

/-- Two look-ups one after the other, if at most one finds something, are one. -/
lemma reads_or {f : Field σ} {first second : Option Node} (once : first = none ∨ second = none)
    {before between after : f.β} (early : f.Reads before first between) :
    f.Reads between second after ↔ f.Reads before (first.or second) after := by
  cases first with
  | none =>
    cases early
    rw [Option.none_or]
  | some node =>
    obtain ⟨value, decoded, rfl⟩ := early
    obtain rfl : second = none := once.resolve_left (Option.some_ne_none node)
    rw [Option.or_none]
    constructor
    · rintro rfl
      exact ⟨value, decoded, rfl⟩
    · rintro ⟨other, decoded', rfl⟩
      rw [decoded] at decoded'
      rw [Except.ok.inj decoded']
      rfl

/-- A setting succeeds with the decoded value put in. -/
lemma setting_eq_ok_iff (f : Field σ) {node : Node} {record record' : σ} :
    setting f.decode f.update node record = .ok record' ↔
      ∃ value, f.decode node = .ok value ∧ f.update value record = record' := by
  cases decoded : node.placing (f.decode node) with
  | error mismatch =>
    rw [setting, decoded]
    refine iff_of_false nofun ?_
    rintro ⟨value, ok, -⟩
    rw [Node.placing_eq_ok_iff.mpr ok] at decoded
    cases decoded
  | ok value =>
    rw [setting, decoded, Node.placing_eq_ok_iff.mp decoded]
    simp

end Field

/-- The settings of a section: no two of them share a name or a part, and together they make up the
record. -/
structure Fields (σ : Type) where
  list : List (Field σ)
  apart : list.Pairwise Field.Apart
  ext : ∀ {record record' : σ}, (∀ f ∈ list, f.part record = f.part record') → record = record'

namespace Fields

variable {σ : Type} (fields : Fields σ)

/-- Two settings of a section are the same if their names are, and else leave each other alone. -/
lemma eq_or_apart {f g : Field σ} (memF : f ∈ fields.list) (memG : g ∈ fields.list) :
    f = g ∨ f.Apart g := by
  by_cases same : f = g
  · exact Or.inl same
  · exact Or.inr (fields.apart.forall memF memG same)

/-- The update under the name of a setting is that of the setting. -/
lemma lookup_eq_some {f : Field σ} (mem : f ∈ fields.list) :
    (fields.list.map Field.entry).lookup f.name = some (setting f.decode f.update) := by
  refine (List.lookup_named_eq_some_iff fun g memG h memH name => ?_).mpr ⟨f, mem, rfl, rfl⟩
  rcases fields.eq_or_apart memG memH with rfl | apart
  · rfl
  · exact absurd name apart.1

/-- One entry of a table, taken into the record. -/
def step (record : σ) (entry : Key × Node) : Except Mismatch σ :=
  match (fields.list.map Field.entry).lookup entry.1.name with
  | some update => update entry.2 record
  | none => .ok record

/-- An entry of a setting is taken in as the decoded value. -/
lemma step_eq_ok_iff {f : Field σ} (mem : f ∈ fields.list) {key : Key} (name : key.name = f.name)
    {node : Node} {record record' : σ} : fields.step record (key, node) = .ok record' ↔
      ∃ value, f.decode node = .ok value ∧ f.update value record = record' := by
  rw [step]
  simp only [name, fields.lookup_eq_some mem]
  exact f.setting_eq_ok_iff

/-- A name is that of a setting, or of none. -/
lemma known_or_unknown (name : String) :
    (∃ f ∈ fields.list, name = f.name) ∨ ∀ f ∈ fields.list, name ≠ f.name := by
  by_cases known : ∃ f ∈ fields.list, name = f.name
  · exact Or.inl known
  · exact Or.inr fun f mem same => known ⟨f, mem, same⟩

/-- An entry that no setting has the name of is passed over. -/
lemma step_of_unknown {key : Key} (unknown : ∀ f ∈ fields.list, key.name ≠ f.name) (node : Node)
    (record : σ) : fields.step record (key, node) = .ok record := by
  have none_found : (fields.list.map Field.entry).lookup key.name = none := by
    simpa [List.lookup_eq_none_iff, Field.entry] using unknown
  rw [step]
  simp only [none_found]

/-- An entry is taken in if the setting of its name can decode it. -/
lemma exists_step {key : Key} {node : Node} (record : σ)
    (decodes : ∀ f ∈ fields.list, key.name = f.name → ∃ value, f.decode node = .ok value) :
    ∃ next, fields.step record (key, node) = .ok next := by
  rcases fields.known_or_unknown key.name with ⟨f, mem, name⟩ | unknown
  · obtain ⟨value, decoded⟩ := decodes f mem name
    exact ⟨_, (fields.step_eq_ok_iff mem name).mpr ⟨value, decoded, rfl⟩⟩
  · exact ⟨record, fields.step_of_unknown unknown node record⟩

/-- What one entry does to the parts: the setting of its name reads it, and the others stay. -/
lemma step_eq_ok_iff_reads {key : Key} {node : Node} {record record' : σ} :
    fields.step record (key, node) = .ok record' ↔ ∀ f ∈ fields.list,
      f.Reads (f.part record) (if key.name = f.name then some node else none) (f.part record') := by
  rcases fields.known_or_unknown key.name with ⟨f, mem, name⟩ | unknown
  · rw [fields.step_eq_ok_iff mem name]
    constructor
    · rintro ⟨value, decoded, rfl⟩ g memG
      rcases fields.eq_or_apart mem memG with rfl | apart
      · rw [if_pos name]
        exact ⟨value, decoded, f.part_update ..⟩
      · rw [if_neg (name ▸ apart.1)]
        exact apart.2.2 ..
    · intro parts
      have own := parts f mem
      rw [if_pos name] at own
      obtain ⟨value, decoded, kept⟩ := own
      refine ⟨value, decoded, fields.ext fun g memG => ?_⟩
      rcases fields.eq_or_apart mem memG with rfl | apart
      · rw [f.part_update, kept]
      · have other := parts g memG
        rw [if_neg (name ▸ apart.1)] at other
        rw [apart.2.2, other]
  · rw [fields.step_of_unknown unknown, Except.ok.injEq]
    constructor
    · rintro rfl f mem
      rw [if_neg (unknown f mem)]
      rfl
    · intro parts
      refine fields.ext fun f mem => ?_
      have own := parts f mem
      rw [if_neg (unknown f mem)] at own
      exact own.symm

/-- Entries are taken in from the first to the last. -/
lemma foldlM_step_cons {entry : Key × Node} {entries : List (Key × Node)} {first last : σ} :
    (entry :: entries).foldlM fields.step first = .ok last ↔
      ∃ next, fields.step first entry = .ok next ∧ entries.foldlM fields.step next = .ok last := by
  rw [List.foldlM_cons]
  cases fields.step first entry <;> simp [bind, Except.bind]

/-- What a record holds after the entries of a table were taken in. -/
lemma foldlM_step_eq_ok_iff {entries : List (Key × Node)}
    (distinct : (entries.map (·.1.name)).Nodup) {first last : σ} :
    entries.foldlM fields.step first = .ok last ↔ ∀ f ∈ fields.list,
      f.Reads (f.part first) (({ entries } : Table Node).find? f.name) (f.part last) := by
  induction entries generalizing first with
  | nil =>
    rw [List.foldlM_nil]
    constructor
    · rintro ⟨⟩ f -
      rfl
    · intro parts
      rw [fields.ext fun f mem => parts f mem]
      rfl
  | cons head rest ih =>
    obtain ⟨key, node⟩ := head
    obtain ⟨new, distinct⟩ := List.nodup_cons.mp distinct
    -- The rest has no entry of the same name, so each setting finds the entry here or there.
    have once (f : Field σ) : (if key.name = f.name then some node else none) = none ∨
        ({ entries := rest } : Table Node).find? f.name = none := by
      by_cases name : key.name = f.name
      · exact Or.inr (Table.find?_eq_none_iff.mpr (name ▸ new))
      · exact Or.inl (if_neg name)
    rw [foldlM_step_cons]
    simp only [Table.find?_cons, ih distinct]
    constructor
    · rintro ⟨next, stepped, parts⟩ f mem
      have early := fields.step_eq_ok_iff_reads.mp stepped f mem
      exact (Field.reads_or (once f) early).mp (parts f mem)
    · intro parts
      obtain ⟨next, stepped⟩ : ∃ next, fields.step first (key, node) = .ok next := by
        refine fields.exists_step first fun f mem name => ?_
        have own := parts f mem
        rw [if_pos name, Option.some_or] at own
        obtain ⟨value, decoded, -⟩ := own
        exact ⟨value, decoded⟩
      refine ⟨next, stepped, fun f mem => ?_⟩
      have early := fields.step_eq_ok_iff_reads.mp stepped f mem
      exact (Field.reads_or (once f) early).mpr (parts f mem)

/-- A table with distinct names is decoded to the record with each part set by the entry of the
setting's name, wherever it stands, and the other parts as they were. -/
theorem fieldsOf_eq_ok_iff {expected : String} {table : Table Node}
    (distinct : table.names.Nodup) {first last : σ} :
    Node.fieldsOf expected (fields.list.map Field.entry) first (.table table) = .ok last ↔
      ∀ f ∈ fields.list, f.Reads (f.part first) (table.find? f.name) (f.part last) := by
  rw [Node.fieldsOf, Node.placing_eq_ok_iff]
  exact fields.foldlM_step_eq_ok_iff distinct

end Fields

end CycleSim
