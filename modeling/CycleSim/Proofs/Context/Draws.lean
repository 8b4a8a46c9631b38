import Mathlib.Algebra.Ring.Nat
import CycleSim.Proofs.Context.Initial
import CycleSim.Proofs.Model.EdgeTriggered

/-!
# Register values by their position in the stream

A context under the random policy gives out one word of the stream of its seed with every draw.  So
the value of a draw follows from the number of draws before it and from its own width, and from
nothing else that was done to the context: not from the widths before it, among them 0 and more than
64, nor from coverage events, looks at a model or the passing of time (`drawn_eq_mapIdx`).  Two
contexts with one seed therefore give values that agree on the bits that both registers have
(`draws_by_position`).
-/

namespace CycleSim.Context

/-- What is done to a context in a run. -/
inductive Use where
  /-- A register of `width` bits draws its first value. -/
  | draw (width : UInt32)
  /-- Coverage events are recorded. -/
  | record (events : List Coverage.Event)
  /-- The indicator of a model is looked at. -/
  | look (finished : Bool)
  /-- Time moves on by one unit. -/
  | advanceTime

/-- The width that a use draws, if it draws. -/
def Use.width? : Use → Option UInt32
  | draw width => some width
  | _ => none

/-- A use with the value that it draws, if it draws. -/
def perform (ctx : Context) : Use → Option UInt64 × Context
  | .draw width => (ctx.drawRegister width).map some id
  | .record events => (none, ctx.record events)
  | .look finished => (none, ctx.latch finished)
  | .advanceTime => (none, ctx.advanceTime)

/-- The widths that uses draw, in order. -/
def widths (uses : List Use) : List UInt32 :=
  uses.filterMap Use.width?

/-- The values that uses draw, in order. -/
def drawn (ctx : Context) : List Use → List UInt64
  | [] => []
  | use :: uses => (ctx.perform use).1.toList ++ (ctx.perform use).2.drawn uses

/-- The value that a register of `width` bits draws behind `k` other draws. -/
def bitsAt (ctx : Context) (k : ℕ) (width : UInt32) : UInt64 :=
  (ctx.skipDraws k).registerBits width

/-! ### Positions -/

/-- Draws follow from the policy and the stream. -/
lemma bitsAt_congr (ctx ctx' : Context) (policy : ctx.resetPolicy = ctx'.resetPolicy)
    (stream : ctx.stream = ctx'.stream) : ctx.bitsAt = ctx'.bitsAt := by
  funext k width
  unfold bitsAt skipDraws registerBits
  rw [policy, stream]
  cases h : ctx'.resetPolicy <;> simp [policy, h]

/-- Draws add up. -/
lemma skipDraws_skipDraws (ctx : Context) (n m : ℕ) :
    (ctx.skipDraws n).skipDraws m = ctx.skipDraws (n + m) := by
  unfold skipDraws
  cases policy : ctx.resetPolicy with
  | zeros | ones => simp only [policy]
  | random => simp only [Stream.advance, Nat.add_assoc]

/-- A draw takes one position, whatever its width. -/
lemma bitsAt_skipDraws_one (ctx : Context) (k : ℕ) :
    (ctx.skipDraws 1).bitsAt k = ctx.bitsAt (k + 1) := by
  funext width
  rw [bitsAt, skipDraws_skipDraws, Nat.add_comm, ← bitsAt]

/-- The value that a use draws is the next one. -/
lemma perform_fst (ctx : Context) (use : Use) :
    (ctx.perform use).1 = use.width?.map (ctx.bitsAt 0) := by
  cases use with
  | draw width =>
    show some (ctx.registerBits width) = some (ctx.bitsAt 0 width)
    rw [bitsAt, skipDraws_zero]
  | record | look | advanceTime => rfl

/-- A use leaves the positions behind its draw, and all positions if it does not draw. -/
lemma bitsAt_perform (ctx : Context) (use : Use) (k : ℕ) :
    (ctx.perform use).2.bitsAt k = ctx.bitsAt (k + use.width?.toList.length) := by
  cases use with
  | draw width => exact ctx.bitsAt_skipDraws_one k
  | record events => exact congrFun (bitsAt_congr (ctx.record events) ctx rfl rfl) k
  | look finished => exact congrFun (bitsAt_congr (ctx.latch finished) ctx rfl rfl) k
  | advanceTime => exact congrFun (bitsAt_congr ctx.advanceTime ctx rfl rfl) k

/-- The draws of a context take one position after the other, whatever is done between them. -/
theorem drawn_eq_mapIdx (ctx : Context) (uses : List Use) :
    ctx.drawn uses = (widths uses).mapIdx ctx.bitsAt := by
  induction uses generalizing ctx with
  | nil => rfl
  | cons use uses ih =>
    have later : (ctx.perform use).2.bitsAt = fun k => ctx.bitsAt (k + use.width?.toList.length) :=
      funext (ctx.bitsAt_perform use)
    rw [drawn, ih, perform_fst, later]
    cases draws : use.width? with
    | none =>
      have skipped : widths (use :: uses) = widths uses := List.filterMap_cons_none draws
      rw [skipped]
      rfl
    | some width =>
      have first : widths (use :: uses) = width :: widths uses := List.filterMap_cons_some draws
      rw [first, List.mapIdx_cons]
      rfl

/-- Draw number `k` takes position `k`. -/
lemma getElem?_drawn (ctx : Context) (uses : List Use) (k : ℕ) :
    (ctx.drawn uses)[k]? = (widths uses)[k]?.map (ctx.bitsAt k) := by
  rw [drawn_eq_mapIdx, List.getElem?_mapIdx]

/-! ### Values -/

section Values

variable {ctx : Context} (k : ℕ) (width : UInt32)

/-- Values of zeros only. -/
lemma bitsAt_of_zeros (zeros : ctx.resetPolicy = .zeros) : ctx.bitsAt k width = 0 := by
  unfold bitsAt skipDraws registerBits
  simp [zeros]

/-- Values of ones only. -/
lemma toNat_bitsAt_of_ones (ones : ctx.resetPolicy = .ones) :
    (ctx.bitsAt k width).toNat = 2 ^ registerWidth width - 1 := by
  unfold bitsAt skipDraws registerBits
  simp [ones, toNat_widthMask]

/-- Random values have the lowest bits of the word at their position. -/
lemma toNat_bitsAt_of_random (random : ctx.resetPolicy = .random) :
    (ctx.bitsAt k width).toNat =
      (Stream.word ctx.seed (ctx.stream.drawn + k)).toNat % 2 ^ registerWidth width := by
  unfold bitsAt skipDraws registerBits
  simp only [random]
  exact toNat_and_widthMask _ width

/-- The random values of a new context begin with the first word of its seed. -/
lemma toNat_bitsAt_of_build {general : GeneralSettings} {coverage : CoverageSettings}
    {args : List String} (built : build general coverage args = .ok ctx)
    (random : ctx.resetPolicy = .random) :
    (ctx.bitsAt k width).toNat = (Stream.word ctx.seed k).toNat % 2 ^ registerWidth width := by
  have start : ctx.stream.drawn = 0 := by
    obtain ⟨settings, -, rfl⟩ := exists_settings_of_build built
    rfl
  rw [toNat_bitsAt_of_random k width random, start, Nat.zero_add]

end Values

/-- A number that was cut to more bits has the same lowest bits. -/
lemma cut_cut {bits all : ℕ} (le : bits ≤ all) (word : ℕ) :
    word % 2 ^ all % 2 ^ bits = word % 2 ^ bits :=
  Nat.mod_mod_of_dvd _ (Nat.pow_dvd_pow 2 le)

/-- Under the random policy the draws of a new context give the words of its seed one after the
other, each cut to the width that is drawn.  So of two new contexts with one seed the draws at one
position agree on the bits that both their widths have, whatever was drawn before them and was done
in between.  Under the other policies all draws give zeros, or all give ones. -/
theorem draws_by_position {general general' : GeneralSettings}
    {coverage coverage' : CoverageSettings} {args args' : List String} {one other : Context}
    (built : build general coverage args = .ok one)
    (built' : build general' coverage' args' = .ok other) (random : one.resetPolicy = .random)
    (random' : other.resetPolicy = .random) (seed : one.seed = other.seed)
    (uses uses' : List Use) :
    (one.drawn uses).map UInt64.toNat = (widths uses).mapIdx (fun k width =>
      (Stream.word one.seed k).toNat % 2 ^ registerWidth width) ∧
    (∀ (k : ℕ) (width width' : UInt32), (widths uses)[k]? = some width →
      (widths uses')[k]? = some width' → ∃ value value' : UInt64,
        (one.drawn uses)[k]? = some value ∧ (other.drawn uses')[k]? = some value' ∧
        value.toNat % 2 ^ min (registerWidth width) (registerWidth width') =
          value'.toNat % 2 ^ min (registerWidth width) (registerWidth width')) ∧
    ∀ fixed : Context,
      (fixed.resetPolicy = .zeros → fixed.drawn uses = (widths uses).map fun _ => 0) ∧
      (fixed.resetPolicy = .ones → (fixed.drawn uses).map UInt64.toNat =
        (widths uses).map fun width => 2 ^ registerWidth width - 1) := by
  refine ⟨?_, fun k width width' draws draws' => ?_, fun fixed => ⟨fun zeros => ?_, fun ones => ?_⟩⟩
  · refine List.ext_getElem? fun k => ?_
    rw [List.getElem?_map, getElem?_drawn, List.getElem?_mapIdx, Option.map_map]
    congr 1
    funext width
    exact toNat_bitsAt_of_build k width built random
  · refine ⟨one.bitsAt k width, other.bitsAt k width', ?_, ?_, ?_⟩
    · rw [getElem?_drawn, draws, Option.map_some]
    · rw [getElem?_drawn, draws', Option.map_some]
    · rw [toNat_bitsAt_of_build k width built random, toNat_bitsAt_of_build k width' built' random',
        seed, cut_cut (Nat.min_le_left _ _), cut_cut (Nat.min_le_right _ _)]
  · refine List.ext_getElem? fun k => ?_
    rw [getElem?_drawn, List.getElem?_map]
    congr 1
    funext width
    exact bitsAt_of_zeros k width zeros
  · refine List.ext_getElem? fun k => ?_
    rw [List.getElem?_map, getElem?_drawn, List.getElem?_map, Option.map_map]
    congr 1
    funext width
    exact toNat_bitsAt_of_ones k width ones

/-- Draws of widths 0, 70 and 5 among other uses. -/
def mixedUses : List Use :=
  [.look true, .draw 0, .record [.hit "p"], .draw 70, .advanceTime, .draw 5]

/-- The third draw after a draw of width 0 and one of more than 64 has the five lowest bits of the
third draw after two whole words, from a context with another time base and coverage. -/
theorem draws_by_position_mixed :
    ∃ value value' : UInt64,
      ((ofSettings {} [] { seed := 7 }).drawn mixedUses)[2]? = some value ∧
      ((ofSettings { enabled := false } [] { seed := 7, timeUnit := .second }).drawn
        [.draw 64, .draw 64, .draw 8])[2]? = some value' ∧
      value.toNat % 2 ^ 5 = value'.toNat % 2 ^ 5 := by
  have built : build { seed := 7 } {} [] = .ok (ofSettings {} [] { seed := 7 }) := rfl
  have built' : build { seed := 7, timeUnit := .second } { enabled := false } [] =
      .ok (ofSettings { enabled := false } [] { seed := 7, timeUnit := .second }) := rfl
  obtain ⟨-, agree, -⟩ := draws_by_position built built' rfl rfl rfl mixedUses
    [.draw 64, .draw 64, .draw 8]
  exact agree 2 5 8 rfl rfl

end CycleSim.Context
