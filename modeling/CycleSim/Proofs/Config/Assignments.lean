import CycleSim.Proofs.Config.Written
import CycleSim.Proofs.Toml.WellFormed

/-!
# What a document says about the settings

`Setting` lists the settings of a configuration with their places in a document, the scalars each of
them admits and the scalar it has when a document does not give one.  `Config.assignments` reads off
a document which settings it gives, in the order of the text and past everything that is no setting,
and `Setting.value` tells what a configuration holds for a setting, as a document would write it. In
a well-formed document the assignments are what the look-ups of sections and keys find
(`Config.mem_assignments_iff`).
-/
namespace CycleSim

open Toml (Node Table Scalar)

/-- The settings of a configuration. -/
inductive Setting where
  | debugLevel
  | resetPolicy
  | seed
  | timeUnit
  | maxTicks
  | coverageEnabled
  | logDir
  | statsFile
  | modelName
  | counterWidth
  | counterCycles
  deriving DecidableEq, Repr

namespace Setting

/-- All settings, section by section. -/
def all : List Setting :=
  [debugLevel, resetPolicy, seed, timeUnit, maxTicks, coverageEnabled, logDir, statsFile, modelName,
    counterWidth, counterCycles]

/-- Name of the section that a setting stands in. -/
def header : Setting → String
  | debugLevel | resetPolicy | seed | timeUnit | maxTicks => "general"
  | coverageEnabled => "coverage"
  | logDir | statsFile => "paths"
  | modelName | counterWidth | counterCycles => "model"

/-- Name of a setting in its section. -/
def key : Setting → String
  | debugLevel => "debug_level"
  | resetPolicy => "rand_reset"
  | seed => "seed"
  | timeUnit => "time_unit"
  | maxTicks => "max_ticks"
  | coverageEnabled => "enabled"
  | logDir => "log_dir"
  | statsFile => "stats_file"
  | modelName => "name"
  | counterWidth => "counter_width"
  | counterCycles => "counter_cycles"

/-- The setting with a given place in documents. -/
def named? (header key : String) : Option Setting :=
  all.find? fun setting => setting.header == header && setting.key == key

/-- Whether a setting may be given as a scalar: its type and its range. -/
def Admits : Setting → Scalar → Prop
  | debugLevel, .integer n => 0 ≤ n ∧ n ≤ 2 ^ 32 - 1
  | resetPolicy, .string name => name ∈ ["zeros", "ones", "random"]
  | seed, .integer n => 0 ≤ n
  | timeUnit, .string name => name ∈ ["s", "ms", "us", "ns", "ps", "fs"]
  | maxTicks, .integer n => 0 < n
  | coverageEnabled, .boolean _ => True
  | logDir, .string _ => True
  | statsFile, .string _ => True
  | modelName, .string _ => True
  | counterWidth, .integer n => 1 ≤ n ∧ n ≤ 64
  | counterCycles, .integer n => 0 ≤ n
  | _, _ => False

/-- What a setting is when a document does not give it; `none` stands for an absent one. -/
def default : Setting → Option Scalar
  | debugLevel => some (.integer 0)
  | resetPolicy => some (.string "random")
  | seed => some (.integer 0)
  | timeUnit => some (.string "ns")
  | maxTicks => none
  | coverageEnabled => some (.boolean true)
  | logDir => some (.string "logs")
  | statsFile => none
  | modelName => some (.string "counter")
  | counterWidth => some (.integer 8)
  | counterCycles => some (.integer 50)

/-- What a configuration holds for a setting, as a document would give it. -/
def value : Setting → Config → Option Scalar
  | debugLevel, config => some (.integer config.general.debugLevel.toNat)
  | resetPolicy, config => some (.string config.general.resetPolicy.name)
  | seed, config => some (.integer config.general.seed.toNat)
  | timeUnit, config => some (.string config.general.timeUnit.symbol)
  | maxTicks, config => config.general.maxTicks.map fun n => .integer n.toNat
  | coverageEnabled, config => some (.boolean config.coverage.enabled)
  | logDir, config => some (.string config.paths.logDir)
  | statsFile, config => config.paths.statsFile.map .string
  | modelName, config => some (.string config.model.name)
  | counterWidth, config => some (.integer config.model.counterWidth.toNat)
  | counterCycles, config => some (.integer config.model.counterCycles.toNat)

end Setting

namespace Config

/-- The settings that a document gives, in the order of the text.  Keys and tables that are no
settings are passed over. -/
def assignments (document : Table Node) : List (Setting × Scalar) :=
  document.entries.flatMap fun (header, node) =>
    match node with
    | .table inner => inner.entries.filterMap fun (key, node) =>
      match Setting.named? header.name key.name, node with
      | some setting, .scalar _ scalar => some (setting, scalar)
      | _, _ => none
    | _ => []

/-- Whether the sections of a document, where they are present, are tables in which the settings
have integers, floats, booleans or strings. -/
def isPlain (document : Table Node) : Bool :=
  Setting.all.all fun setting =>
    match document.find? setting.header with
    | none => true
    | some (.table inner) => (inner.find? setting.key).all Node.isPlain
    | some _ => false

/-! ### Looking up settings -/

/-- The table under a name, or an empty one. -/
def innerTable (document : Table Node) (name : String) : Table Node :=
  match document.find? name with
  | some (.table inner) => inner
  | _ => {}

/-- The scalar that a document gives for a setting. -/
def given? (document : Table Node) (setting : Setting) : Option Scalar :=
  ((innerTable document setting.header).find? setting.key).bind Node.scalar?

variable {document : Table Node}

/-- The tables in a well-formed document are well formed. -/
lemma wellFormed_innerTable (wf : document.WellFormed) (name : String) :
    (innerTable document name).WellFormed := by
  rw [innerTable]
  split
  · rename_i inner found
    exact wf.of_find? found
  · exact .of_entries_eq_nil rfl

/-- All settings are listed. -/
lemma mem_all (setting : Setting) : setting ∈ Setting.all := by
  cases setting <;> decide

/-- A section of a plain document is absent or a table. -/
lemma section_of_isPlain (plain : isPlain document = true) (setting : Setting) :
    document.find? setting.header = none ∨
      document.find? setting.header = some (.table (innerTable document setting.header)) := by
  have here := List.all_eq_true.mp plain setting (mem_all setting)
  rw [innerTable]
  split at here
  · exact Or.inl ‹_›
  · rename_i found
    rw [found]
    exact Or.inr rfl
  · cases here

/-- The settings of a plain document have plain nodes. -/
lemma plain_of_isPlain (plain : isPlain document = true) (setting : Setting) :
    ((innerTable document setting.header).find? setting.key).all Node.isPlain = true := by
  have here := List.all_eq_true.mp plain setting (mem_all setting)
  rw [innerTable]
  split at here
  · rename_i absent
    rw [absent]
    rfl
  · rename_i found
    rw [found]
    exact here
  · cases here

/-- Settings are known by their place. -/
lemma named?_eq_some_iff {header key : String} {setting : Setting} :
    Setting.named? header key = some setting ↔ setting.header = header ∧ setting.key = key := by
  constructor
  · intro found
    simpa using List.find?_some found
  · rintro ⟨rfl, rfl⟩
    cases setting <;> decide

/-- The assignments of a document, by the entries they stand in. -/
lemma mem_assignments {setting : Setting} {scalar : Scalar} :
    (setting, scalar) ∈ assignments document ↔ ∃ inner span,
      (∃ header, header.name = setting.header ∧ (header, Node.table inner) ∈ document.entries) ∧
        ∃ key, key.name = setting.key ∧ (key, Node.scalar span scalar) ∈ inner.entries := by
  constructor
  · intro assigned
    obtain ⟨⟨header, node⟩, inDocument, inside⟩ := List.mem_flatMap.mp assigned
    cases node with
    | table inner =>
      obtain ⟨⟨key, node⟩, inTable, taken⟩ := List.mem_filterMap.mp inside
      cases named : Setting.named? header.name key.name with
      | none => simp [named] at taken
      | some other =>
        cases node with
        | scalar span value =>
          simp only [named] at taken
          cases taken
          obtain ⟨atHeader, atKey⟩ := named?_eq_some_iff.mp named
          exact ⟨inner, span, ⟨header, atHeader.symm, inDocument⟩, key, atKey.symm, inTable⟩
        | _ => simp [named] at taken
    | _ => cases inside
  · rintro ⟨inner, span, ⟨header, atHeader, inDocument⟩, key, atKey, inTable⟩
    refine List.mem_flatMap.mpr ⟨_, inDocument, List.mem_filterMap.mpr ⟨_, inTable, ?_⟩⟩
    have named := named?_eq_some_iff.mpr ⟨atHeader.symm, atKey.symm⟩
    dsimp only
    rw [named]

/-- What is given for a setting, by the look-ups that find it. -/
lemma given?_eq_some_iff {setting : Setting} {scalar : Scalar} :
    given? document setting = some scalar ↔ ∃ inner span,
      document.find? setting.header = some (.table inner) ∧
        inner.find? setting.key = some (.scalar span scalar) := by
  rw [given?, innerTable, Option.bind_eq_some_iff]
  constructor
  · rintro ⟨node, found, value⟩
    split at found
    · rename_i inner here
      cases node with
      | scalar span scalar =>
        cases value
        exact ⟨inner, span, here, found⟩
      | _ => cases value
    · cases found
  · rintro ⟨inner, span, here, found⟩
    rw [here]
    exact ⟨_, found, rfl⟩

/-- In a well-formed document a setting is assigned what it is given. -/
lemma mem_assignments_iff (wf : document.WellFormed) {setting : Setting} {scalar : Scalar} :
    (setting, scalar) ∈ assignments document ↔ given? document setting = some scalar := by
  rw [mem_assignments, given?_eq_some_iff]
  refine exists_congr fun inner => exists_congr fun span => ?_
  rw [Table.find?_eq_some_iff wf.distinct]
  refine and_congr_right fun ⟨header, _, inDocument⟩ => ?_
  have below : inner.WellFormed := wf.below _ inDocument
  rw [Table.find?_eq_some_iff below.distinct]

/-- The scalars that a well-formed document gives fit into 64 bits. -/
lemma fits_of_given? (wf : document.WellFormed) {setting : Setting} {scalar : Scalar}
    (given : given? document setting = some scalar) : scalar.Fits := by
  obtain ⟨inner, span, here, found⟩ := given?_eq_some_iff.mp given
  have below : inner.WellFormed := wf.of_find? here
  cases below.of_find? found with
  | scalar _ fits => exact fits

end Config

end CycleSim
