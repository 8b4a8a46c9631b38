import CycleSim.Config.Basic
import CycleSim.Decimal.Basic

/-!
# Plus-arguments

Arguments that begin with `+sim+` override general settings.  They are read in order, so of two
settings of one kind the later one holds; `+sim+debug` asks for at least the first debug level.
Arguments of any other form are left to the device model.
-/

namespace CycleSim

/-- The text after a beginning, or `none` if the text begins otherwise. -/
def stripStart? (start text : String) : Option String :=
  if start.toList.isPrefixOf text.toList then
    some (String.ofList (text.toList.drop start.toList.length))
  else none

/-- An argument that overrides a general setting. -/
inductive PlusArg where
  | seed (value : UInt64)
  | resetPolicy (policy : ResetPolicy)
  | debugLevel (level : UInt32)
  /-- At least the first debug level. -/
  | debug
  deriving DecidableEq, Repr

namespace PlusArg

/-- Beginning of an argument that sets the seed. -/
def seedStart : String := "+sim+seed+"

/-- Beginning of an argument that sets the reset policy. -/
def resetPolicyStart : String := "+sim+rand+reset+"

/-- Beginning of an argument that sets the debug level. -/
def debugLevelStart : String := "+sim+debugi+"

/-- The argument that asks for the first debug level. -/
def debugText : String := "+sim+debug"

/-- Reads an argument; `none` stands for one that overrides nothing. -/
def read (arg : String) : Except ConfigError (Option PlusArg) :=
  if let some value := stripStart? seedStart arg then
    match Decimal.readNat UInt64.size value with
    | some n => .ok (some (.seed (UInt64.ofNat n)))
    | none => .error (.malformedPlusArg arg)
  else if let some value := stripStart? resetPolicyStart arg then
    match Decimal.readNat UInt8.size value with
    | some code =>
      match ResetPolicy.ofCode? code with
      | some policy => .ok (some (.resetPolicy policy))
      | none => .error (.unknownPolicy code)
    | none => .error (.malformedPlusArg arg)
  else if let some value := stripStart? debugLevelStart arg then
    match Decimal.readNat UInt32.size value with
    | some n => .ok (some (.debugLevel (UInt32.ofNat n)))
    | none => .error (.malformedPlusArg arg)
  else if arg = debugText then .ok (some .debug)
  else .ok none

/-- The settings with an override. -/
def apply (settings : GeneralSettings) : PlusArg → GeneralSettings
  | seed value => { settings with seed := value }
  | resetPolicy policy => { settings with resetPolicy := policy }
  | debugLevel level => { settings with debugLevel := level }
  | debug => { settings with debugLevel := max settings.debugLevel 1 }

end PlusArg

namespace GeneralSettings

/-- The settings after one argument. -/
def override (settings : GeneralSettings) (arg : String) : Except ConfigError GeneralSettings := do
  match ← PlusArg.read arg with
  | some plusArg => .ok (plusArg.apply settings)
  | none => .ok settings

/-- The settings after all arguments; the first malformed one is the failure. -/
def overrideAll (settings : GeneralSettings) (args : List String) :
    Except ConfigError GeneralSettings :=
  args.foldlM override settings

/-- Debug level before the arguments are checked, for the log of the start-up: malformed values
are passed over. -/
def startupDebugLevel (settings : GeneralSettings) (args : List String) : UInt32 :=
  args.foldl (fun level arg =>
    match stripStart? PlusArg.debugLevelStart arg with
    | some value => ((Decimal.readNat UInt32.size value).map UInt32.ofNat).getD level
    | none => if arg = PlusArg.debugText then max level 1 else level) settings.debugLevel

end GeneralSettings

end CycleSim
