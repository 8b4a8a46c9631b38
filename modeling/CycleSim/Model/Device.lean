import CycleSim.Model.Counter
import CycleSim.Model.Doubler
import CycleSim.Model.Sum

/-!
# The built-in devices

The models that a configuration can name, under one type.  Each needs a known number of ticks to
finish, which bounds its runs.
-/

namespace CycleSim

/-- A built-in model. -/
abbrev Device := Counter ⊕ Doubler

namespace Device

/-- Names of the built-in models. -/
def names : List String :=
  ["counter", "doubler"]

/-- Builds the model that the settings name. -/
def build (settings : ModelSettings) (ctx : Context) : Except ConfigError (Device × Context) :=
  if settings.name = "counter" then
    let (model, ctx) := Counter.build ctx settings.counterWidth settings.counterCycles
    .ok (.inl model, ctx)
  else if settings.name = "doubler" then
    (Doubler.build ctx).map fun (model, ctx) => (.inr model, ctx)
  else .error (.unknownModel settings.name names)

/-- Ticks that are enough for a device to finish: two for every edge it waits for.  The doubler
waits for one edge more than it has operands. -/
def ticksToFinish : Device → Nat
  | .inl counter => 2 * counter.finishAfter.toNat
  | .inr doubler => 2 * (doubler.operands.size + 1)

end Device

end CycleSim
