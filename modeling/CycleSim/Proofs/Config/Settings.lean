import Mathlib.Data.List.Perm.Basic
import CycleSim.Proofs.Config.Sections
import CycleSim.Proofs.Toml.Document

/-!
# Reading settings

Decoding settles the types of the settings and a check behind it the remaining ranges: together they
let pass exactly what `Setting.Admits` says (`Config.valid_iff`).  A text in whose document every
section is a table with scalars for the settings is a configuration if and only if each given scalar
is admitted.  The configuration then holds what is given and the defaults elsewhere, so that neither
other keys nor the order of keys and sections matter (`Config.ofToml_settings`).
-/

namespace CycleSim

open Toml (Node Table Scalar)

namespace Config

variable {document : Table Node}

/-! ### Ranges -/

/-- Whether the settings of a configuration are in the ranges that their types do not imply. -/
def Valid (config : Config) : Prop :=
  (1 ≤ config.model.counterWidth.toNat ∧ config.model.counterWidth.toNat ≤ 64) ∧
    config.general.maxTicks ≠ some 0

/-- The check accepts the valid configurations, as they are. -/
lemma validate_eq_ok_iff {config config' : Config} :
    config.validate = .ok config' ↔ config = config' ∧ config.Valid := by
  have width : (config.model.counterWidth = 0 ∨ 64 < config.model.counterWidth) ↔
      ¬(1 ≤ config.model.counterWidth.toNat ∧ config.model.counterWidth.toNat ≤ 64) := by
    rw [← UInt32.toNat_inj, UInt32.lt_iff_toNat_lt]
    show (_ = 0 ∨ 64 < _) ↔ _
    omega
  rw [validate, Valid]
  split_ifs with outside zero
  · exact iff_of_false nofun fun valid => width.mp outside valid.2.1
  · exact iff_of_false nofun fun valid => valid.2.2 zero
  · rw [Except.ok.injEq]
    exact (and_iff_left ⟨not_not.mp (mt width.mpr outside), zero⟩).symm

/-- A text is read as what its document is decoded to, if that is valid. -/
lemma ofToml_eq_ok_iff {text : String} (parsed : Toml.parse? text = some document)
    {config : Config} :
    ofToml text = .ok config ↔ decode document = .ok config ∧ config.Valid := by
  simp only [ofToml, parsed]
  cases decode document with
  | error mismatch => simp
  | ok decoded =>
    simp only [validate_eq_ok_iff, Except.ok.injEq]
    refine and_congr_right fun same => ?_
    rw [same]

/-- The valid configurations are those that hold admitted scalars only. -/
lemma valid_iff {config : Config} : config.Valid ↔
    ∀ (setting : Setting) (scalar : Scalar),
      setting.value config = some scalar → setting.Admits scalar := by
  constructor
  · rintro ⟨⟨least, most⟩, limit⟩ setting scalar held
    cases setting
    case debugLevel =>
      cases held
      have bound := config.general.debugLevel.toNat_lt
      exact ⟨by omega, by omega⟩
    case resetPolicy =>
      cases held
      cases config.general.resetPolicy <;> simp [Setting.Admits, ResetPolicy.name]
    case timeUnit =>
      cases held
      cases config.general.timeUnit <;> simp [Setting.Admits, TimeUnit.symbol]
    case maxTicks =>
      obtain ⟨n, set, rfl⟩ := Option.map_eq_some_iff.mp held
      have pos : n.toNat ≠ 0 := fun zero =>
        limit (set.trans (congrArg some (UInt64.toNat_inj.mp zero)))
      exact Int.natCast_pos.mpr (Nat.pos_of_ne_zero pos)
    case counterWidth =>
      cases held
      exact ⟨by omega, by omega⟩
    case statsFile =>
      obtain ⟨_, -, rfl⟩ := Option.map_eq_some_iff.mp held
      trivial
    case seed | counterCycles =>
      cases held
      exact Int.natCast_nonneg _
    all_goals
      cases held
      trivial
  · intro admitted
    obtain ⟨least, most⟩ := admitted .counterWidth _ rfl
    refine ⟨⟨by omega, by omega⟩, fun zero => ?_⟩
    have pos := admitted .maxTicks (.integer 0) (by simp [Setting.value, zero])
    exact absurd pos (by simp [Setting.Admits])

/-- The defaults are admitted. -/
lemma admits_default {setting : Setting} {scalar : Scalar}
    (unset : setting.default = some scalar) : setting.Admits scalar := by
  cases setting <;> cases unset <;> simp [Setting.Admits]

/-- The defaults are what the configuration of an empty document holds. -/
lemma default_eq_value (setting : Setting) : setting.default = setting.value {} := by
  cases setting <;> rfl

/-- Integers from 0 on that fit into 32 bits. -/
lemma exists_uint32 {n : Int} (least : 0 ≤ n) (most : n < 2 ^ 32) :
    ∃ value : UInt32, (value.toNat : Int) = n := by
  refine ⟨.ofNat n.toNat, ?_⟩
  rw [UInt32.toNat_ofNat_of_lt' (by rw [UInt32.size]; omega)]
  omega

/-- Integers from 0 on that fit into 64 bits. -/
lemma exists_uint64 {n : Int} (least : 0 ≤ n) (most : n < 2 ^ 64) :
    ∃ value : UInt64, (value.toNat : Int) = n := by
  refine ⟨.ofNat n.toNat, ?_⟩
  rw [UInt64.toNat_ofNat_of_lt' (by rw [UInt64.size]; omega)]
  omega

/-- What is admitted can be held. -/
lemma exists_value_eq {setting : Setting} {scalar : Scalar} (admitted : setting.Admits scalar)
    (fits : scalar.Fits) : ∃ config, setting.value config = some scalar := by
  match setting, scalar, admitted with
  | .debugLevel, .integer n, ⟨least, most⟩ =>
    obtain ⟨value, rfl⟩ := exists_uint32 least (by omega)
    exact ⟨{ general := { debugLevel := value } }, rfl⟩
  | .resetPolicy, .string name, known =>
    have named : name ∈ ResetPolicy.all.map (·.name) := known
    obtain ⟨value, -, rfl⟩ := List.mem_map.mp named
    exact ⟨{ general := { resetPolicy := value } }, rfl⟩
  | .seed, .integer n, least =>
    obtain ⟨value, rfl⟩ := exists_uint64 least (by have := fits.2; omega)
    exact ⟨{ general := { seed := value } }, rfl⟩
  | .timeUnit, .string name, known =>
    have named : name ∈ TimeUnit.all.map (·.symbol) := known
    obtain ⟨value, -, rfl⟩ := List.mem_map.mp named
    exact ⟨{ general := { timeUnit := value } }, rfl⟩
  | .maxTicks, .integer n, pos =>
    obtain ⟨value, rfl⟩ := exists_uint64 (n := n) (Int.le_of_lt pos) (by have := fits.2; omega)
    exact ⟨{ general := { maxTicks := some value } }, rfl⟩
  | .coverageEnabled, .boolean value, _ => exact ⟨{ coverage := { enabled := value } }, rfl⟩
  | .logDir, .string value, _ => exact ⟨{ paths := { logDir := value } }, rfl⟩
  | .statsFile, .string value, _ => exact ⟨{ paths := { statsFile := some value } }, rfl⟩
  | .modelName, .string value, _ => exact ⟨{ model := { name := value } }, rfl⟩
  | .counterWidth, .integer n, ⟨least, most⟩ =>
    obtain ⟨value, rfl⟩ := exists_uint32 (n := n) (by omega) (by omega)
    exact ⟨{ model := { counterWidth := value } }, rfl⟩
  | .counterCycles, .integer n, least =>
    obtain ⟨value, rfl⟩ := exists_uint64 least (by have := fits.2; omega)
    exact ⟨{ model := { counterCycles := value } }, rfl⟩

/-- If a document gives what is admitted, some configuration holds it. -/
lemma exists_holds (wf : document.WellFormed)
    (admitted : ∀ setting scalar, given? document setting = some scalar → setting.Admits scalar) :
    ∃ config : Config, ∀ setting, config.Holds document setting := by
  have each (setting : Setting) : ∃ config : Config, config.Holds document setting := by
    cases given : given? document setting with
    | none =>
      refine ⟨{}, ?_⟩
      rw [Holds, given, Option.none_or, default_eq_value]
    | some scalar =>
      obtain ⟨config, held⟩ :=
        exists_value_eq (admitted setting scalar given) (fits_of_given? wf given)
      exact ⟨config, by rw [Holds, held, given, Option.some_or]⟩
  choose config held using each
  refine ⟨{
    general := {
      debugLevel := (config .debugLevel).general.debugLevel
      resetPolicy := (config .resetPolicy).general.resetPolicy
      seed := (config .seed).general.seed
      timeUnit := (config .timeUnit).general.timeUnit
      maxTicks := (config .maxTicks).general.maxTicks }
    coverage := { enabled := (config .coverageEnabled).coverage.enabled }
    paths := {
      logDir := (config .logDir).paths.logDir
      statsFile := (config .statsFile).paths.statsFile }
    model := {
      name := (config .modelName).model.name
      counterWidth := (config .counterWidth).model.counterWidth
      counterCycles := (config .counterCycles).model.counterCycles } }, fun setting => ?_⟩
  have own := held setting
  cases setting <;> exact own

/-- A configuration that holds what a document gives, if that is admitted, is valid. -/
lemma valid_of_holds {config : Config}
    (admitted : ∀ setting scalar, given? document setting = some scalar → setting.Admits scalar)
    (holds : ∀ setting, config.Holds document setting) : config.Valid := by
  refine valid_iff.mpr fun setting scalar held => ?_
  have either := (holds setting).symm.trans held
  rcases Option.or_eq_some_iff.mp either with given | ⟨-, unset⟩
  · exact admitted setting scalar given
  · exact admits_default unset

/-! ### Reading configurations -/

/-- A plain document is read as the configuration that holds what it gives, if that is admitted. -/
lemma ofToml_eq_ok_iff_holds {text : String} (parsed : Toml.parse? text = some document)
    (plain : isPlain document = true) {config : Config} :
    ofToml text = .ok config ↔
      (∀ setting scalar, (setting, scalar) ∈ assignments document → setting.Admits scalar) ∧
        ∀ setting, config.Holds document setting := by
  have wf := Toml.wellFormed_of_parse? parsed
  simp only [mem_assignments_iff wf]
  rw [ofToml_eq_ok_iff parsed, decode_eq_ok_iff wf plain]
  constructor
  · rintro ⟨holds, valid⟩
    refine ⟨fun setting scalar given => ?_, holds⟩
    refine valid_iff.mp valid setting scalar ?_
    rw [holds setting, given, Option.some_or]
  · rintro ⟨admitted, holds⟩
    exact ⟨holds, valid_of_holds admitted holds⟩

/-- A text is a configuration if and only if what its document gives for the settings is admitted:
every setting that is present has its type and its range.  Then the configuration holds for each
setting what is given, or the default if the setting or its whole section is absent.  Nothing else
in the document counts, and neither does the order: a document with the same assignments in another
order, among other keys and tables, is read as the same configuration, or refused as well. -/
theorem ofToml_settings {text : String} (parsed : Toml.parse? text = some document)
    (plain : isPlain document = true) :
    ((∃ config, ofToml text = .ok config) ↔
      ∀ setting scalar, (setting, scalar) ∈ assignments document → setting.Admits scalar) ∧
    (∀ config, ofToml text = .ok config → ∀ setting : Setting,
      (∀ scalar, (setting, scalar) ∈ assignments document →
        setting.value config = some scalar) ∧
      ((∀ scalar, (setting, scalar) ∉ assignments document) →
        setting.value config = setting.default)) ∧
    ∀ text' document', Toml.parse? text' = some document' → isPlain document' = true →
      (assignments document').Perm (assignments document) →
      ∀ config, ofToml text' = .ok config ↔ ofToml text = .ok config := by
  have wf := Toml.wellFormed_of_parse? parsed
  refine ⟨?_, ?_, ?_⟩
  · simp only [ofToml_eq_ok_iff_holds parsed plain, exists_and_left, and_iff_left_iff_imp]
    intro admitted
    simp only [mem_assignments_iff wf] at admitted
    exact exists_holds wf admitted
  · intro config read setting
    have held := (ofToml_eq_ok_iff_holds parsed plain |>.mp read).2 setting
    simp only [mem_assignments_iff wf]
    constructor
    · intro scalar given
      rw [held, given, Option.some_or]
    · intro absent
      have unset : given? document setting = none := Option.eq_none_iff_forall_ne_some.mpr absent
      rw [held, unset, Option.none_or]
  · intro text' document' parsed' plain' perm config
    have wf' := Toml.wellFormed_of_parse? parsed'
    have same (setting : Setting) : given? document' setting = given? document setting := by
      ext scalar
      rw [← mem_assignments_iff wf', ← mem_assignments_iff wf, perm.mem_iff]
    rw [ofToml_eq_ok_iff_holds parsed' plain', ofToml_eq_ok_iff_holds parsed plain]
    simp only [perm.mem_iff, Holds, same]

/-- Three settings among other keys, one section by a dotted key. -/
def mixedText : String :=
  "model.counter_width = 64\nspare = 1.5\n[general]\nseed = 7\nrand_reset = 'ones'\nother = [1]\n"

/-- The settings of `mixedText` in another order and among other tables. -/
def reorderedText : String :=
  "[general]\nrand_reset = 'ones'\nseed = 7\n[extra]\nseed = 8\n[model]\ncounter_width = 64\n"

/-- Reading the assignments of a text decides whether it has a plain document with these. -/
lemma exists_document {text : String} {given : List (Setting × Scalar)}
    (read : (Toml.parse? text).any
      (fun document => isPlain document && assignments document == given) = true) :
    ∃ document, Toml.parse? text = some document ∧ isPlain document = true ∧
      assignments document = given := by
  simpa [Option.any_eq_true] using read

/-- Both texts are read as one configuration, with the given seed and the default name. -/
theorem ofToml_settings_mixed : ∃ config,
    (ofToml mixedText = .ok config ∧ ofToml reorderedText = .ok config) ∧
      Setting.seed.value config = some (.integer 7) ∧
      Setting.modelName.value config = some (.string "counter") := by
  obtain ⟨mixed, parsed, plain, given⟩ : ∃ document, Toml.parse? mixedText = some document ∧
      isPlain document = true ∧ assignments document =
        [(.counterWidth, .integer 64), (.seed, .integer 7), (.resetPolicy, .string "ones")] :=
    exists_document (by decide +kernel)
  obtain ⟨reordered, parsed', plain', given'⟩ : ∃ document,
      Toml.parse? reorderedText = some document ∧ isPlain document = true ∧ assignments document =
        [(.resetPolicy, .string "ones"), (.seed, .integer 7), (.counterWidth, .integer 64)] :=
    exists_document (by decide +kernel)
  obtain ⟨accepted, held, order⟩ := ofToml_settings parsed plain
  have admitted : ∀ setting scalar, (setting, scalar) ∈ assignments mixed →
      setting.Admits scalar := by
    intro setting scalar mem
    simp only [given, List.mem_cons, Prod.mk.injEq, List.not_mem_nil, or_false] at mem
    rcases mem with ⟨rfl, rfl⟩ | ⟨rfl, rfl⟩ | ⟨rfl, rfl⟩ <;> simp [Setting.Admits]
  obtain ⟨config, read⟩ := accepted.mpr admitted
  refine ⟨config, ⟨read, (order _ _ parsed' plain' ?_ config).mpr read⟩, ?_, ?_⟩
  · rw [given, given']
    decide
  · exact (held config read .seed).1 _ (by simp [given])
  · exact (held config read .modelName).2 (by simp [given])

end Config

end CycleSim
