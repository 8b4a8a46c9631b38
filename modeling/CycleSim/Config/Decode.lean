import CycleSim.Config.Basic
import CycleSim.FileTree.Basic
import CycleSim.Toml.Document

/-!
# Reading configurations

A configuration is decoded from a TOML tree.  Each setting has a decoder for its type, and a
section is a list of named decoders: a table fills its settings by name, an array by position, and
names and positions without a setting are skipped.  The first setting that does not fit, in the
order of the text, is reported at its place; a value without a place of its own is reported at the
nearest table around it that has one.
-/

namespace CycleSim

open Toml (Node Mismatch Detail Found)

namespace Toml.Node

/-- The shape of a node as messages name it. -/
def found : Node → Found
  | scalar _ (.integer value) => .integer value
  | scalar _ (.float value) => .float value
  | scalar _ (.boolean value) => .boolean value
  | scalar _ (.string value) => .string value
  | scalar _ .dateTime => .map
  | array _ _ => .sequence
  | table _ => .map
  | tables _ => .sequence

/-- Refuses a node with a detail. -/
def refuse {α : Type} (node : Node) (detail : Detail) : Except Mismatch α :=
  .error ⟨node.span?, detail⟩

/-- Refuses a node as having the wrong type. -/
def mistyped {α : Type} (node : Node) (expected : String) : Except Mismatch α :=
  node.refuse (.invalidType node.found expected)

/-- Places a refusal without bytes of its own at the node. -/
def placing {α : Type} (node : Node) (result : Except Mismatch α) : Except Mismatch α :=
  result.mapError fun mismatch => { mismatch with span := mismatch.span.or node.span? }

/-- An integer that is at least 0 and below `bound`. -/
def natural (bound : Nat) (expected : String) (node : Node) : Except Mismatch Nat :=
  match node with
  | scalar _ (.integer value) =>
    if 0 ≤ value ∧ value < bound then .ok value.toNat
    else node.refuse (.outOfRange value expected)
  | _ => node.mistyped expected

/-- An unsigned integer of 32 bits. -/
def uint32 (node : Node) : Except Mismatch UInt32 :=
  UInt32.ofNat <$> node.natural UInt32.size "u32"

/-- An unsigned integer of 64 bits. -/
def uint64 (node : Node) : Except Mismatch UInt64 :=
  UInt64.ofNat <$> node.natural UInt64.size "u64"

/-- A boolean. -/
def boolean (node : Node) : Except Mismatch Bool :=
  match node with
  | scalar _ (.boolean value) => .ok value
  | _ => node.mistyped "a boolean"

/-- A string, called `expected` in messages. -/
def string (expected : String) (node : Node) : Except Mismatch String :=
  match node with
  | scalar _ (.string value) => .ok value
  | _ => node.mistyped expected

/-- Accepts what stands as the value of a variant that carries nothing: an empty table. -/
def emptyPayload (node : Node) : Except Mismatch Unit :=
  match node with
  | table inner => if inner.entries.isEmpty then .ok () else node.refuse .payloadTable
  | _ => node.refuse (.payload node.kind)

/-- One of several named values: a string with the name, or a table whose only key is the name. -/
def choice {α : Type} (variants : List (String × α)) (node : Node) : Except Mismatch α :=
  match node with
  | scalar span (.string name) =>
    match variants.lookup name with
    | some value => .ok value
    | none => .error ⟨some span, .unknownVariant name (variants.map (·.1))⟩
  | table inner => node.placing <|
    match inner.entries with
    | [] => node.refuse .noVariant
    | [(key, payload)] =>
      match variants.lookup key.name with
      | some value => do
        payload.emptyPayload
        .ok value
      | none => .error ⟨some key.span, .unknownVariant key.name (variants.map (·.1))⟩
    | _ => node.refuse .severalVariants
  | _ => node.refuse .notAVariant

/-- A section: `settings` pairs each setting's name with the update its node makes.  A date-time
counts as a table without settings. -/
def fieldsOf {σ : Type} (expected : String)
    (settings : List (String × (Node → σ → Except Mismatch σ))) (initial : σ) (node : Node) :
    Except Mismatch σ :=
  node.placing <|
    match node with
    | table inner =>
      inner.entries.foldlM (fun state (key, value) =>
        match settings.lookup key.name with
        | some update => update value state
        | none => .ok state) initial
    | array _ items =>
      (settings.zip items).foldlM (fun state (setting, value) => setting.2 value state) initial
    | tables elements =>
      (settings.zip elements).foldlM (fun state (setting, element) =>
        setting.2 (.table element) state) initial
    | scalar _ .dateTime => .ok initial
    | _ => node.mistyped expected

end Toml.Node

/-- The update of a setting from its decoded value. -/
def setting {σ α : Type} (decode : Node → Except Mismatch α) (update : α → σ → σ) (node : Node)
    (state : σ) : Except Mismatch σ :=
  (update · state) <$> node.placing (decode node)

/-- Decodes the section `general`. -/
def GeneralSettings.decode : Node → Except Mismatch GeneralSettings :=
  Node.fieldsOf "struct GeneralConfig"
    [("debug_level", setting Node.uint32 fun value s => { s with debugLevel := value }),
     ("rand_reset", setting (Node.choice (ResetPolicy.all.map fun p => (p.name, p)))
        fun value s => { s with resetPolicy := value }),
     ("seed", setting Node.uint64 fun value s => { s with seed := value }),
     ("time_unit", setting (Node.choice (TimeUnit.all.map fun u => (u.symbol, u)))
        fun value s => { s with timeUnit := value }),
     ("max_ticks", setting Node.uint64 fun value s => { s with maxTicks := some value })]
    {}

/-- Decodes the section `coverage`. -/
def CoverageSettings.decode : Node → Except Mismatch CoverageSettings :=
  Node.fieldsOf "struct CoverageConfig"
    [("enabled", setting Node.boolean fun value s => { s with enabled := value })]
    {}

/-- Decodes the section `paths`. -/
def PathSettings.decode : Node → Except Mismatch PathSettings :=
  Node.fieldsOf "struct PathsConfig"
    [("log_dir", setting (Node.string "path string") fun value s => { s with logDir := value }),
     ("stats_file", setting (Node.string "path string")
        fun value s => { s with statsFile := some value })]
    {}

/-- Decodes the section `model`. -/
def ModelSettings.decode : Node → Except Mismatch ModelSettings :=
  Node.fieldsOf "struct ModelConfig"
    [("name", setting (Node.string "a string") fun value s => { s with name := value }),
     ("counter_width", setting Node.uint32 fun value s => { s with counterWidth := value }),
     ("counter_cycles", setting Node.uint64 fun value s => { s with counterCycles := value })]
    {}

namespace Config

/-- Decodes the sections of a document, in the order of the text. -/
def decode (document : Toml.Table Node) : Except Mismatch Config :=
  Node.fieldsOf "struct Config"
    [("general", setting GeneralSettings.decode fun value s => { s with general := value }),
     ("coverage", setting CoverageSettings.decode fun value s => { s with coverage := value }),
     ("paths", setting PathSettings.decode fun value s => { s with paths := value }),
     ("model", setting ModelSettings.decode fun value s => { s with model := value })]
    {} (.table document)

/-- Reads a configuration from the text of a document. -/
def ofToml (text : String) : Except ConfigError Config :=
  match Toml.parse? text with
  | none => .error .notToml
  | some document =>
    match decode document with
    | .error mismatch => .error (.setting (Toml.Diagnostic.ofMismatch text mismatch))
    | .ok config => config.validate

/-- Reads a configuration file. -/
def load (tree : FileTree) (path : String) : Except ConfigError Config :=
  match tree.readText path with
  | .error cause => .error (.unreadable path cause)
  | .ok text => ofToml text

end Config

end CycleSim
