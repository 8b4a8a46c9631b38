import Mathlib.Algebra.Ring.Nat
import CycleSim.Context.Basic

/-!
# New contexts and first register values

A context that was just built stands at time 0 with its latch clear and an empty database, if it
collects coverage.  The first value of a register comes from the reset policy and has no more bits
than the register, where widths above 64 count as 64.
-/

namespace CycleSim

/-- The bits that a width stands for. -/
def registerWidth (width : UInt32) : ℕ :=
  min width.toNat 64

/-- No register has more bits than a word. -/
lemma registerWidth_le (width : UInt32) : registerWidth width ≤ 64 :=
  Nat.min_le_right _ _

/-- A mask has all bits of its width. -/
lemma toNat_widthMask (width : UInt32) :
    (widthMask width).toNat = 2 ^ registerWidth width - 1 := by
  have bits : (64 : UInt32).toNat = 64 := rfl
  unfold widthMask registerWidth
  by_cases wide : 64 ≤ width
  · rw [if_pos wide]
    rw [UInt32.le_iff_toNat_le, bits] at wide
    rw [Nat.min_eq_right wide]
    rfl
  · have narrow : width.toNat < 64 := by
      rw [UInt32.le_iff_toNat_le, bits] at wide
      omega
    have shifted : ((1 : UInt64) <<< width.toUInt64).toNat = 2 ^ width.toNat := by
      rw [UInt64.toNat_shiftLeft, UInt32.toNat_toUInt64, Nat.mod_eq_of_lt narrow, UInt64.toNat_one,
        Nat.one_shiftLeft]
      exact Nat.mod_eq_of_lt (Nat.pow_lt_pow_right (by decide) narrow)
    have one : (1 : UInt64) ≤ 1 <<< width.toUInt64 := by
      rw [UInt64.le_iff_toNat_le, shifted]
      exact Nat.one_le_two_pow
    rw [if_neg wide, UInt64.toNat_sub_of_le _ _ one, shifted, Nat.min_eq_left (Nat.le_of_lt narrow)]
    rfl

/-- A mask keeps the remainder by the power of 2 of its width. -/
lemma toNat_and_widthMask (bits : UInt64) (width : UInt32) :
    (bits &&& widthMask width).toNat = bits.toNat % 2 ^ registerWidth width := by
  rw [UInt64.toNat_and, toNat_widthMask, Nat.and_two_pow_sub_one_eq_mod]

namespace Context

/-- The first value of a register fits its width. -/
lemma toNat_registerBits_lt (ctx : Context) (width : UInt32) :
    (ctx.registerBits width).toNat < 2 ^ registerWidth width := by
  have pos := Nat.two_pow_pos (registerWidth width)
  unfold registerBits
  split
  · exact pos
  · rw [toNat_widthMask]
    omega
  · rw [toNat_and_widthMask]
    exact Nat.mod_lt _ pos

/-- Draws do not touch the database. -/
@[simp] lemma coverage_skipDraws (ctx : Context) (n : ℕ) :
    (ctx.skipDraws n).coverage = ctx.coverage := by
  unfold skipDraws
  split <;> rfl

/-- A context that was just built, with coverage to collect. -/
structure Initial (context : Context) : Prop where
  time_eq : context.time = 0
  clear : context.stopRequested = false
  coverage_eq : context.coverage = some default

/-- The context that a run starts with after its arguments have been read. -/
def ofSettings (coverage : CoverageSettings) (args : List String) (settings : GeneralSettings) :
    Context where
  debugLevel := settings.debugLevel
  resetPolicy := settings.resetPolicy
  stream := { seed := settings.seed }
  timeUnit := settings.timeUnit
  coverage := if coverage.enabled then some default else none
  args := args

/-- Building a context is reading the arguments. -/
lemma build_eq (general : GeneralSettings) (coverage : CoverageSettings) (args : List String) :
    build general coverage args = (general.overrideAll args).map (ofSettings coverage args) := by
  unfold build
  cases general.overrideAll args <;> rfl

/-- What a context is built of. -/
lemma exists_settings_of_build {general : GeneralSettings} {coverage : CoverageSettings}
    {args : List String} {context : Context} (built : build general coverage args = .ok context) :
    ∃ settings, general.overrideAll args = .ok settings ∧
      context = ofSettings coverage args settings := by
  rw [build_eq] at built
  cases read : general.overrideAll args with
  | error cause =>
    rw [read] at built
    cases built
  | ok settings =>
    rw [read] at built
    exact ⟨settings, rfl, (Except.ok.inj built).symm⟩

/-- Contexts that are built to collect coverage begin so, whatever the settings and the
arguments. -/
lemma initial_of_build {general : GeneralSettings} {coverage : CoverageSettings}
    {args : List String} {context : Context} (built : build general coverage args = .ok context)
    (enabled : coverage.enabled = true) : context.Initial := by
  obtain ⟨settings, -, rfl⟩ := exists_settings_of_build built
  exact ⟨rfl, rfl, if_pos enabled⟩

/-- The first events fill an empty database. -/
lemma coverage_record {context : Context} (empty : context.coverage = some default)
    (events : List Coverage.Event) :
    (context.record events).coverage = some ((default : Coverage.Database).recordAll events) := by
  rw [record, empty]
  rfl

end Context

end CycleSim
