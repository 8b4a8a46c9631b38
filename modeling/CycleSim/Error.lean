import CycleSim.FileTree.Error
import CycleSim.Toml.Diagnostic

/-!
# Failures

Everything that can go wrong before or during a run, as causes.  The wording of a failure is
`SimError.message`, built from `ConfigError.message` and `FileError.message`.
-/

namespace CycleSim

/-- What is wrong with a configuration, an argument or the choice of a model. -/
inductive ConfigError where
  /-- The configuration file cannot be read. -/
  | unreadable (path : String) (cause : FileError)
  /-- The configuration is not a TOML document. -/
  | notToml
  /-- A setting has the wrong shape. -/
  | setting (diagnostic : Toml.Diagnostic)
  /-- The counter's width is not between 1 and 64. -/
  | counterWidth (width : UInt32)
  /-- The tick limit is zero. -/
  | zeroTickLimit
  /-- No reset policy has this code. -/
  | unknownPolicy (code : Nat)
  /-- A recognised plus-argument has a malformed value. -/
  | malformedPlusArg (arg : String)
  /-- No model has this name. -/
  | unknownModel (name : String) (known : List String)
  /-- The number of operands is not a number. -/
  | malformedVectors (value : String)
  /-- There are more operands than allowed. -/
  | tooManyVectors (count limit : Nat)
  /-- A failure reported by a device model, in its own words. -/
  | reported (message : String)
  deriving DecidableEq, Repr

/-- Wording of a configuration error. -/
def ConfigError.message : ConfigError → String
  | unreadable path cause => "could not read '" ++ path ++ "': " ++ cause.message
  | notToml => "TOML parse error: the text is not a TOML document\n"
  | setting diagnostic => diagnostic.message
  | counterWidth width => "model.counter_width must be in 1..=64, got " ++ toString width.toNat
  | zeroTickLimit => "general.max_ticks must be non-zero"
  | unknownPolicy code =>
    "unknown randomization policy " ++ toString code ++ ", expected 0, 1 or 2"
  | malformedPlusArg arg => "malformed plus-argument '" ++ arg ++ "'"
  | unknownModel name known =>
    "unknown model '" ++ name ++ "', expected one of: " ++ ", ".intercalate known
  | malformedVectors value => "malformed +doubler+vectors=" ++ value
  | tooManyVectors count limit =>
    "+doubler+vectors=" ++ toString count ++ " exceeds the limit of " ++ toString limit
      ++ " operands"
  | reported message => message

/-- Why a run failed.  Every failure ends the run. -/
inductive SimError where
  /-- Something is wrong with the configuration. -/
  | config (cause : ConfigError)
  /-- A file operation failed, the writing of coverage apart. -/
  | io (cause : FileError)
  /-- A check inside the device model failed. -/
  | assertion (time : UInt64) (message : String)
  /-- The coverage file could not be written. -/
  | coverageWrite (path : String) (cause : FileError)
  /-- The design had not finished when the tick limit was reached. -/
  | tickLimitExceeded (limit : UInt64)
  deriving DecidableEq, Repr

/-- Wording of a failure. -/
def SimError.message : SimError → String
  | config cause => "configuration error: " ++ cause.message
  | io cause => "I/O error: " ++ cause.message
  | assertion time message =>
    "assertion failed at time " ++ toString time.toNat ++ ": " ++ message
  | coverageWrite path cause =>
    "failed to write coverage to " ++ path ++ ": " ++ cause.message
  | tickLimitExceeded limit =>
    "design did not finish within " ++ toString limit.toNat ++ " ticks"

end CycleSim
