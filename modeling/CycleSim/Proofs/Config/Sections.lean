import CycleSim.Proofs.Config.Assignments

/-!
# Sections setting by setting

The four sections of a configuration, and the configuration as a section of sections, are decoded by
their fields (`generalFields` to `sections`).  A well-formed plain document is therefore decoded to
the configuration that holds for each setting what the document gives, or the default
(`Config.decode_eq_ok_iff`): an absent section is decoded like an empty one.
-/

namespace CycleSim

open Toml (Node Table Mismatch)

namespace Config

variable {document : Table Node}

/-- Whether a configuration holds for a setting what a document gives, or the default. -/
def Holds (config : Config) (document : Table Node) (setting : Setting) : Prop :=
  setting.value config = (given? document setting).or setting.default

/-- The policies by their names. -/
lemma written_resetPolicy :
    Written (Node.choice (ResetPolicy.all.map fun p => (p.name, p))) fun p => .string p.name :=
  .choice (fun p => by cases p <;> decide) fun p q => by cases p <;> cases q <;> decide

/-- The units by their symbols. -/
lemma written_timeUnit :
    Written (Node.choice (TimeUnit.all.map fun u => (u.symbol, u))) fun u => .string u.symbol :=
  .choice (fun u => by cases u <;> decide) fun u v => by cases u <;> cases v <;> decide

/-- The settings of the section `general`. -/
def generalFields : Fields GeneralSettings where
  list := [
    .required "debug_level" Node.uint32 (fun value s => { s with debugLevel := value })
      (·.debugLevel) fun _ _ => rfl,
    .required "rand_reset" (Node.choice (ResetPolicy.all.map fun p => (p.name, p)))
      (fun value s => { s with resetPolicy := value }) (·.resetPolicy) fun _ _ => rfl,
    .required "seed" Node.uint64 (fun value s => { s with seed := value }) (·.seed) fun _ _ => rfl,
    .required "time_unit" (Node.choice (TimeUnit.all.map fun u => (u.symbol, u)))
      (fun value s => { s with timeUnit := value }) (·.timeUnit) fun _ _ => rfl,
    .optional "max_ticks" Node.uint64 (fun value s => { s with maxTicks := some value })
      (·.maxTicks) fun _ _ => rfl]
  apart := by simp [Field.Apart, Field.required, Field.optional]
  ext := by
    rintro ⟨⟩ ⟨⟩ same
    simpa [Field.required, Field.optional] using same

/-- The settings of the section `coverage`. -/
def coverageFields : Fields CoverageSettings where
  list := [
    .required "enabled" Node.boolean (fun value s => { s with enabled := value }) (·.enabled)
      fun _ _ => rfl]
  apart := by simp
  ext := by
    rintro ⟨⟩ ⟨⟩ same
    simpa [Field.required] using same

/-- The settings of the section `paths`. -/
def pathFields : Fields PathSettings where
  list := [
    .required "log_dir" (Node.string "path string") (fun value s => { s with logDir := value })
      (·.logDir) fun _ _ => rfl,
    .optional "stats_file" (Node.string "path string")
      (fun value s => { s with statsFile := some value }) (·.statsFile) fun _ _ => rfl]
  apart := by simp [Field.Apart, Field.required, Field.optional]
  ext := by
    rintro ⟨⟩ ⟨⟩ same
    simpa [Field.required, Field.optional] using same

/-- The settings of the section `model`. -/
def modelFields : Fields ModelSettings where
  list := [
    .required "name" (Node.string "a string") (fun value s => { s with name := value }) (·.name)
      fun _ _ => rfl,
    .required "counter_width" Node.uint32 (fun value s => { s with counterWidth := value })
      (·.counterWidth) fun _ _ => rfl,
    .required "counter_cycles" Node.uint64 (fun value s => { s with counterCycles := value })
      (·.counterCycles) fun _ _ => rfl]
  apart := by simp [Field.Apart, Field.required]
  ext := by
    rintro ⟨⟩ ⟨⟩ same
    simpa [Field.required] using same

/-- The sections of a configuration. -/
def sections : Fields Config where
  list := [
    .required "general" GeneralSettings.decode (fun value s => { s with general := value })
      (·.general) fun _ _ => rfl,
    .required "coverage" CoverageSettings.decode (fun value s => { s with coverage := value })
      (·.coverage) fun _ _ => rfl,
    .required "paths" PathSettings.decode (fun value s => { s with paths := value })
      (·.paths) fun _ _ => rfl,
    .required "model" ModelSettings.decode (fun value s => { s with model := value })
      (·.model) fun _ _ => rfl]
  apart := by simp [Field.Apart, Field.required]
  ext := by
    rintro ⟨⟩ ⟨⟩ same
    simpa [Field.required] using same

section Decoding

variable (wf : document.WellFormed) (plain : isPlain document = true) {config : Config}
include wf plain

/-- The section `general` is decoded setting by setting. -/
lemma decode_general_eq_ok_iff :
    GeneralSettings.decode (.table (innerTable document "general")) = .ok config.general ↔
      config.Holds document .debugLevel ∧ config.Holds document .resetPolicy ∧
        config.Holds document .seed ∧ config.Holds document .timeUnit ∧
        config.Holds document .maxTicks := by
  have plain := plain_of_isPlain plain
  refine (generalFields.fieldsOf_eq_ok_iff (wellFormed_innerTable wf _).distinct).trans ?_
  simp only [generalFields, List.forall_mem_cons, List.not_mem_nil, false_imp_iff, implies_true,
    and_true]
  exact and_congr (Written.uint32.reads_required_iff (plain .debugLevel)) <|
    and_congr (written_resetPolicy.reads_required_iff (plain .resetPolicy)) <|
    and_congr (Written.uint64.reads_required_iff (plain .seed)) <|
    and_congr (written_timeUnit.reads_required_iff (plain .timeUnit)) <|
    Written.uint64.reads_optional_iff (plain .maxTicks)

/-- The section `coverage` is decoded setting by setting. -/
lemma decode_coverage_eq_ok_iff :
    CoverageSettings.decode (.table (innerTable document "coverage")) = .ok config.coverage ↔
      config.Holds document .coverageEnabled := by
  have plain := plain_of_isPlain plain
  refine (coverageFields.fieldsOf_eq_ok_iff (wellFormed_innerTable wf _).distinct).trans ?_
  simp only [coverageFields, List.forall_mem_cons, List.not_mem_nil, false_imp_iff, implies_true,
    and_true]
  exact Written.boolean.reads_required_iff (plain .coverageEnabled)

/-- The section `paths` is decoded setting by setting. -/
lemma decode_paths_eq_ok_iff :
    PathSettings.decode (.table (innerTable document "paths")) = .ok config.paths ↔
      config.Holds document .logDir ∧ config.Holds document .statsFile := by
  have plain := plain_of_isPlain plain
  refine (pathFields.fieldsOf_eq_ok_iff (wellFormed_innerTable wf _).distinct).trans ?_
  simp only [pathFields, List.forall_mem_cons, List.not_mem_nil, false_imp_iff, implies_true,
    and_true]
  exact and_congr ((Written.string _).reads_required_iff (plain .logDir))
    ((Written.string _).reads_optional_iff (plain .statsFile))

/-- The section `model` is decoded setting by setting. -/
lemma decode_model_eq_ok_iff :
    ModelSettings.decode (.table (innerTable document "model")) = .ok config.model ↔
      config.Holds document .modelName ∧ config.Holds document .counterWidth ∧
        config.Holds document .counterCycles := by
  have plain := plain_of_isPlain plain
  refine (modelFields.fieldsOf_eq_ok_iff (wellFormed_innerTable wf _).distinct).trans ?_
  simp only [modelFields, List.forall_mem_cons, List.not_mem_nil, false_imp_iff, implies_true,
    and_true]
  exact and_congr ((Written.string _).reads_required_iff (plain .modelName)) <|
    and_congr (Written.uint32.reads_required_iff (plain .counterWidth)) <|
    Written.uint64.reads_required_iff (plain .counterCycles)

omit wf in
/-- A section that is absent is decoded like an empty one. -/
lemma reads_section_iff {σ : Type} {decode : Node → Except Mismatch σ} {unset part : σ}
    (empty : decode (.table {}) = .ok unset) (setting : Setting) {update : σ → Config → Config}
    {partOf : Config → σ} {part_update : ∀ value config, partOf (update value config) = value} :
    (Field.required setting.header decode update partOf part_update).Reads unset
        (document.find? setting.header) part ↔
      decode (.table (innerTable document setting.header)) = .ok part := by
  rcases section_of_isPlain plain setting with absent | present
  · rw [innerTable, absent]
    show part = unset ↔ decode (.table {}) = .ok part
    rw [empty, Except.ok.injEq, eq_comm]
  · rw [present]
    show (∃ value, decode _ = .ok value ∧ part = value) ↔ _
    simp

/-- A document is decoded setting by setting. -/
lemma decode_eq_ok_iff :
    decode document = .ok config ↔ ∀ setting, config.Holds document setting := by
  refine (sections.fieldsOf_eq_ok_iff wf.distinct).trans ?_
  simp only [sections, List.forall_mem_cons, List.not_mem_nil, false_imp_iff, implies_true,
    and_true]
  refine (and_congr
    ((reads_section_iff plain (by rfl) .debugLevel).trans (decode_general_eq_ok_iff wf plain)) <|
    and_congr
    ((reads_section_iff plain (by rfl) .coverageEnabled).trans
      (decode_coverage_eq_ok_iff wf plain)) <|
    and_congr
    ((reads_section_iff plain (by rfl) .logDir).trans (decode_paths_eq_ok_iff wf plain))
    ((reads_section_iff plain (by rfl) .modelName).trans
      (decode_model_eq_ok_iff wf plain))).trans ?_
  constructor
  · rintro ⟨⟨_, _, _, _, _⟩, _, ⟨_, _⟩, _, _, _⟩ setting
    cases setting <;> assumption
  · intro holds
    exact ⟨⟨holds _, holds _, holds _, holds _, holds _⟩, holds _, ⟨holds _, holds _⟩, holds _,
      holds _, holds _⟩

end Decoding

end Config

end CycleSim
