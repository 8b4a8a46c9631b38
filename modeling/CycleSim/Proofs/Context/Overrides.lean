import Mathlib.Algebra.Ring.Nat
import Mathlib.Data.List.DropRight
import CycleSim.Proofs.Context.Initial
import CycleSim.Proofs.Context.PlusArg

/-!
# Settings after arguments

Of two arguments of one kind the later one holds, and the first malformed one ends the reading of
them all.  Both are said here about whole lists of arguments: `overridden` are the settings after
the overrides that well-formed arguments ask for, `overrideAll` comes to them exactly if all are
well-formed (`overrideAll_eq_ok`, `overrideAll_eq_error`), and each setting is what the last
argument of its kind means, or the configured one (`fromLast_overridden`, `debugLevel_overridden`).
The log of the start-up, which passes malformed arguments over, takes its level from the same
settings (`startupDebugLevel_eq`).
-/

namespace CycleSim

open PlusArg Decimal

/-- A text denotes the code of a policy. -/
def PlusArg.DenotesPolicy (text : String) (policy : ResetPolicy) : Prop :=
  ∃ code, Denotes text code ∧ ResetPolicy.ofCode? code = some policy

/-- An argument that is not malformed. -/
def PlusArg.WellFormed (arg : String) : Prop :=
  ∀ cause, ¬Malformed arg cause

/-- The override that an argument asks for, if it is well-formed and asks for any. -/
def PlusArg.ofArg? (arg : String) : Option PlusArg :=
  match read arg with
  | .ok meaning => meaning
  | .error _ => none

namespace PlusArg

/-- A text denotes at most one policy. -/
lemma DenotesPolicy.unique {text : String} {policy policy' : ResetPolicy}
    (one : DenotesPolicy text policy) (other : DenotesPolicy text policy') : policy = policy' := by
  obtain ⟨code, denotes, found⟩ := one
  obtain ⟨code', denotes', found'⟩ := other
  rw [denotes.unique denotes', found'] at found
  exact (Option.some.inj found).symm

/-- Well-formed arguments mean something. -/
lemma WellFormed.exists_means {arg : String} (wellFormed : WellFormed arg) :
    ∃ meaning, Means arg meaning := by
  rcases means_or_malformed arg with means | ⟨cause, malformed⟩
  · exact means
  · exact absurd malformed (wellFormed cause)

/-- What an argument means is well-formed. -/
lemma Means.wellFormed {arg : String} {meaning : Option PlusArg} (means : Means arg meaning) :
    WellFormed arg := by
  intro cause malformed
  cases (read_eq_ok_iff.mpr means).symm.trans (read_eq_error_iff.mpr malformed)

/-- An argument asks for what it means. -/
lemma Means.ofArg?_eq {arg : String} {meaning : Option PlusArg} (means : Means arg meaning) :
    ofArg? arg = meaning := by
  rw [ofArg?, read_eq_ok_iff.mpr means]

/-- A malformed argument asks for nothing. -/
lemma Malformed.ofArg?_eq {arg : String} {cause : ConfigError} (malformed : Malformed arg cause) :
    ofArg? arg = none := by
  rw [ofArg?, read_eq_error_iff.mpr malformed]

/-- Of arguments that are not all well-formed there is a first that is malformed. -/
lemma wellFormed_or_exists_first (args : List String) :
    (∀ arg ∈ args, WellFormed arg) ∨ ∃ before arg after cause, args = before ++ arg :: after ∧
      (∀ earlier ∈ before, WellFormed earlier) ∧ Malformed arg cause := by
  induction args with
  | nil => exact .inl nofun
  | cons arg args ih =>
    rcases means_or_malformed arg with ⟨meaning, means⟩ | ⟨cause, malformed⟩
    · rcases ih with all | ⟨before, bad, after, cause, rfl, earlier, malformed⟩
      · exact .inl (List.forall_mem_cons.mpr ⟨means.wellFormed, all⟩)
      · exact .inr ⟨arg :: before, bad, after, cause, rfl,
          List.forall_mem_cons.mpr ⟨means.wellFormed, earlier⟩, malformed⟩
    · exact .inr ⟨[], arg, args, cause, rfl, nofun, malformed⟩

end PlusArg

namespace GeneralSettings

variable {settings : GeneralSettings} {args : List String}

/-- The settings after the overrides that arguments ask for, in order; malformed arguments are
passed over. -/
def overridden (settings : GeneralSettings) (args : List String) : GeneralSettings :=
  (args.filterMap ofArg?).foldl apply settings

/-- The first of several arguments takes effect before the others. -/
lemma overridden_cons (settings : GeneralSettings) (arg : String) (args : List String) :
    settings.overridden (arg :: args) = (settings.overridden [arg]).overridden args := by
  unfold overridden
  cases meaning : ofArg? arg <;> simp [meaning]

/-- The last of several arguments takes effect after the others. -/
lemma overridden_concat (settings : GeneralSettings) (args : List String) (arg : String) :
    settings.overridden (args ++ [arg]) = (settings.overridden args).overridden [arg] := by
  unfold overridden
  rw [List.filterMap_append, List.foldl_append]

/-- What an argument means takes effect. -/
lemma overridden_of_means {arg : String} {meaning : Option PlusArg} (means : Means arg meaning) :
    settings.overridden [arg] = meaning.elim settings (apply settings) := by
  unfold overridden
  cases meaning <;> simp [means.ofArg?_eq]

/-- A malformed argument has no effect. -/
lemma overridden_of_malformed {arg : String} {cause : ConfigError}
    (malformed : Malformed arg cause) : settings.overridden [arg] = settings := by
  unfold overridden
  simp [malformed.ofArg?_eq]

/-! ### Reading all arguments -/

/-- A well-formed argument takes effect. -/
lemma override_of_wellFormed {arg : String} (wellFormed : WellFormed arg) :
    settings.override arg = .ok (settings.overridden [arg]) := by
  obtain ⟨meaning, means⟩ := wellFormed.exists_means
  rw [override, read_eq_ok_iff.mpr means, overridden_of_means means]
  cases meaning <;> rfl

/-- Well-formed arguments all take effect. -/
theorem overrideAll_eq_ok (wellFormed : ∀ arg ∈ args, WellFormed arg) :
    settings.overrideAll args = .ok (settings.overridden args) := by
  induction args generalizing settings with
  | nil => rfl
  | cons arg args ih =>
    obtain ⟨first, rest⟩ := List.forall_mem_cons.mp wellFormed
    rw [overrideAll, List.foldlM_cons, override_of_wellFormed first,
      overridden_cons settings arg args]
    exact ih rest

/-- The first malformed argument is the failure. -/
theorem overrideAll_eq_error {before after : List String} {arg : String} {cause : ConfigError}
    (wellFormed : ∀ earlier ∈ before, WellFormed earlier) (malformed : Malformed arg cause) :
    settings.overrideAll (before ++ arg :: after) = .error cause := by
  have reached : settings.overrideAll before = .ok _ := overrideAll_eq_ok wellFormed
  rw [overrideAll] at reached ⊢
  rw [List.foldlM_append, reached]
  show List.foldlM override (settings.overridden before) (arg :: after) = _
  rw [List.foldlM_cons, override, read_eq_error_iff.mpr malformed]
  rfl

/-- Reading succeeds exactly with well-formed arguments, which then all have taken effect. -/
theorem overrideAll_eq_ok_iff {result : GeneralSettings} :
    settings.overrideAll args = .ok result ↔
      (∀ arg ∈ args, WellFormed arg) ∧ result = settings.overridden args := by
  constructor
  · intro read
    rcases wellFormed_or_exists_first args with
      wellFormed | ⟨before, arg, after, cause, rfl, wellFormed, malformed⟩
    · exact ⟨wellFormed, Except.ok.inj (read.symm.trans (overrideAll_eq_ok wellFormed))⟩
    · cases read.symm.trans (overrideAll_eq_error wellFormed malformed)
  · rintro ⟨wellFormed, rfl⟩
    exact overrideAll_eq_ok wellFormed

/-- Reading fails exactly with the failure of the first malformed argument. -/
theorem overrideAll_eq_error_iff {cause : ConfigError} :
    settings.overrideAll args = .error cause ↔
      ∃ before arg after, args = before ++ arg :: after ∧
        (∀ earlier ∈ before, WellFormed earlier) ∧ Malformed arg cause := by
  constructor
  · intro read
    rcases wellFormed_or_exists_first args with
      wellFormed | ⟨before, arg, after, cause', rfl, wellFormed, malformed⟩
    · cases read.symm.trans (overrideAll_eq_ok wellFormed)
    · obtain rfl :=
        Except.error.inj (read.symm.trans (overrideAll_eq_error wellFormed malformed))
      exact ⟨before, arg, after, rfl, wellFormed, malformed⟩
  · rintro ⟨before, arg, after, rfl, wellFormed, malformed⟩
    exact overrideAll_eq_error wellFormed malformed

/-- An argument that overrides nothing can be left out. -/
lemma overrideAll_of_means_none {before after : List String} {arg : String}
    (means : Means arg none) :
    settings.overrideAll (before ++ arg :: after) = settings.overrideAll (before ++ after) := by
  have idle (reached : GeneralSettings) : reached.override arg = .ok reached := by
    rw [override_of_wellFormed means.wellFormed, overridden_of_means means]
    rfl
  have skipped (reached : GeneralSettings) :
      (arg :: after).foldlM override reached = after.foldlM override reached := by
    rw [List.foldlM_cons, idle]
    rfl
  simp only [overrideAll, List.foldlM_append, skipped]

/-- Arguments do not change the unit of time. -/
lemma timeUnit_overridden (settings : GeneralSettings) (args : List String) :
    (settings.overridden args).timeUnit = settings.timeUnit := by
  unfold overridden
  induction args.filterMap ofArg? generalizing settings with
  | nil => rfl
  | cons plusArg plusArgs ih =>
    rw [List.foldl_cons, ih]
    cases plusArg <;> rfl

/-! ### What the last argument of a kind means -/

/-- The value of the last argument that begins with `start`. -/
def lastValue? (start : String) (args : List String) : Option String :=
  (args.filterMap (stripStart? start)).getLast?

/-- The arguments behind the last one that begins with `start`; all of them if there is none. -/
def behindLast (start : String) (args : List String) : List String :=
  args.rtakeWhile fun arg => (stripStart? start arg).isNone

/-- A setting after arguments: what the last value behind `start` means, or the configured value if
there is none. -/
def FromLast {α : Type} (Meaning : String → α → Prop) (start : String) (args : List String)
    (configured value : α) : Prop :=
  match lastValue? start args with
  | some text => Meaning text value
  | none => value = configured

/-- The last argument decides if it begins with `start`. -/
lemma lastValue?_concat (start : String) (args : List String) (arg : String) :
    lastValue? start (args ++ [arg]) = (stripStart? start arg).or (lastValue? start args) := by
  unfold lastValue?
  cases behind : stripStart? start arg <;> simp [behind]

variable {α : Type} {Meaning : String → α → Prop} {configured value : α}

/-- An argument that begins otherwise leaves the decision to those before it. -/
lemma fromLast_concat_of_none {start arg : String} (none : stripStart? start arg = none) :
    FromLast Meaning start (args ++ [arg]) configured value ↔
      FromLast Meaning start args configured value := by
  rw [FromLast, FromLast, lastValue?_concat, none, Option.none_or]

/-- An argument that begins with `start` decides. -/
lemma fromLast_concat_append {start text : String} :
    FromLast Meaning start (args ++ [start ++ text]) configured value ↔ Meaning text value := by
  rw [FromLast, lastValue?_concat, stripStart?_append, Option.some_or]

/-- Texts that mean at most one thing leave one value to a setting. -/
lemma FromLast.unique {start : String} {value value' : α}
    (one : FromLast Meaning start args configured value)
    (other : FromLast Meaning start args configured value')
    (functional : ∀ {text a b}, Meaning text a → Meaning text b → a = b) : value = value' := by
  unfold FromLast at one other
  cases last : lastValue? start args with
  | none =>
    rw [last] at one other
    exact one.trans other.symm
  | some text =>
    rw [last] at one other
    exact functional one other

/-- A setting that only the values of one kind change is what the last of them means. -/
theorem fromLast_overridden (kind : Kind) (get : GeneralSettings → α)
    (own : ∀ {text n plusArg settings}, Denotes text n → n < kind.bound →
      kind.override? n = some plusArg → Meaning text (get (apply settings plusArg)))
    (others : ∀ {other n plusArg settings}, other ≠ kind → Kind.override? other n = some plusArg →
      get (apply settings plusArg) = get settings)
    (flag : ∀ settings, get (apply settings .debug) = get settings)
    (wellFormed : ∀ arg ∈ args, WellFormed arg) :
    FromLast Meaning kind.start args (get settings) (get (settings.overridden args)) := by
  -- The last argument decides or leaves the decision to those before it.
  induction args using List.reverseRecOn with
  | nil => rfl
  | append_singleton args arg ih =>
    have before := ih fun earlier mem => wellFormed earlier (List.mem_append_left _ mem)
    obtain ⟨meaning, means⟩ :=
      (wellFormed arg (List.mem_append_right _ List.mem_cons_self)).exists_means
    rw [overridden_concat, overridden_of_means means]
    cases means with
    | @value other text n plusArg denotes lt meant =>
      by_cases same : other = kind
      · obtain rfl := same
        exact fromLast_concat_append.mpr (own denotes lt meant)
      · rw [fromLast_concat_of_none (Kind.stripStart?_of_ne same text)]
        show FromLast _ _ _ _ (get (apply _ plusArg))
        rw [others same meant]
        exact before
    | flag =>
      rw [fromLast_concat_of_none (kind.stripStart?_debugText)]
      show FromLast _ _ _ _ (get (apply _ .debug))
      rw [flag]
      exact before
    | other unstarted ne =>
      rw [fromLast_concat_of_none (unstarted kind)]
      exact before

/-- The seed is that of the last argument with a seed. -/
lemma seed_overridden (wellFormed : ∀ arg ∈ args, WellFormed arg) :
    FromLast (fun text seed => Denotes text seed.toNat) seedStart args settings.seed
      (settings.overridden args).seed := by
  refine fromLast_overridden .seed (·.seed) ?_ ?_ (fun _ => rfl) wellFormed
  · intro text n plusArg settings denotes lt meant
    obtain rfl := Option.some.inj meant
    show Denotes text (UInt64.ofNat n).toNat
    rwa [UInt64.toNat_ofNat_of_lt' lt]
  · intro other n plusArg settings ne meant
    rcases override?_cases meant with ⟨rfl, rfl⟩ | ⟨rfl, policy, -, rfl⟩ | ⟨rfl, rfl⟩
    · exact absurd rfl ne
    · rfl
    · rfl

/-- The reset policy is that of the last argument with a policy. -/
lemma resetPolicy_overridden (wellFormed : ∀ arg ∈ args, WellFormed arg) :
    FromLast DenotesPolicy resetPolicyStart args settings.resetPolicy
      (settings.overridden args).resetPolicy := by
  refine fromLast_overridden .resetPolicy (·.resetPolicy) ?_ ?_ (fun _ => rfl) wellFormed
  · intro text n plusArg settings denotes lt meant
    obtain ⟨policy, found, rfl⟩ := Option.map_eq_some_iff.mp meant
    exact ⟨n, denotes, found⟩
  · intro other n plusArg settings ne meant
    rcases override?_cases meant with ⟨rfl, rfl⟩ | ⟨rfl, policy, -, rfl⟩ | ⟨rfl, rfl⟩
    · rfl
    · exact absurd rfl ne
    · rfl

/-! ### The debug level -/

/-- A debug level after arguments: what the last argument with a level means, or the configured
level if there is none, and at least 1 if the flag stands behind that argument. -/
def LevelAfter (args : List String) (configured result : UInt32) : Prop :=
  ∃ level, FromLast (fun text level => Denotes text level.toNat) debugLevelStart args
      configured level ∧
    result = if debugText ∈ behindLast debugLevelStart args then max level 1 else level

variable {base result : UInt32}

/-- An argument that begins otherwise stands behind the last one. -/
lemma behindLast_concat_of_none {start arg : String} (none : stripStart? start arg = none) :
    behindLast start (args ++ [arg]) = behindLast start args ++ [arg] :=
  List.rtakeWhile_concat_pos _ _ _ (by rw [none]; rfl)

/-- Nothing stands behind an argument that is itself the last one. -/
lemma behindLast_concat_append (start text : String) :
    behindLast start (args ++ [start ++ text]) = [] :=
  List.rtakeWhile_concat_neg _ _ _ (by rw [stripStart?_append]; exact Bool.false_ne_true)

/-- Arguments other than levels and flags leave the level as it is. -/
lemma LevelAfter.concat_other {arg : String} (after : LevelAfter args base result)
    (none : stripStart? debugLevelStart arg = none) (ne : arg ≠ debugText) :
    LevelAfter (args ++ [arg]) base result := by
  obtain ⟨level, fromLast, same⟩ := after
  refine ⟨level, (fromLast_concat_of_none none).mpr fromLast, ?_⟩
  rw [behindLast_concat_of_none none, same]
  simp [ne.symm]

/-- A level holds until another argument changes it. -/
lemma LevelAfter.concat_level {text : String} {level : UInt32}
    (denotes : Denotes text level.toNat) :
    LevelAfter (args ++ [debugLevelStart ++ text]) base level := by
  refine ⟨level, fromLast_concat_append.mpr denotes, ?_⟩
  rw [behindLast_concat_append]
  rfl

/-- The flag raises the level to at least 1. -/
lemma LevelAfter.concat_flag (after : LevelAfter args base result) :
    LevelAfter (args ++ [debugText]) base (max result 1) := by
  have none : stripStart? debugLevelStart debugText = none := Kind.stripStart?_debugText .debugLevel
  obtain ⟨level, fromLast, same⟩ := after
  refine ⟨level, (fromLast_concat_of_none none).mpr fromLast, ?_⟩
  have raised : max (max level 1) 1 = max level 1 := by
    by_cases small : level ≤ 1 <;> simp [max, small]
  rw [behindLast_concat_of_none none, same,
    if_pos (List.mem_append_right _ List.mem_cons_self)]
  split
  · exact raised
  · rfl

/-- Arguments leave one level. -/
lemma LevelAfter.unique {result' : UInt32} (one : LevelAfter args base result)
    (other : LevelAfter args base result') : result = result' := by
  obtain ⟨level, fromLast, rfl⟩ := one
  obtain ⟨level', fromLast', rfl⟩ := other
  have same : level = level' := by
    refine fromLast.unique fromLast' ?_
    intro text one other denotes denotes'
    exact UInt32.toNat_inj.mp (denotes.unique denotes')
  rw [same]

/-- The debug level is that of the last argument with a level, and at least 1 if the flag stands
behind it. -/
theorem debugLevel_overridden (wellFormed : ∀ arg ∈ args, WellFormed arg) :
    LevelAfter args settings.debugLevel (settings.overridden args).debugLevel := by
  -- Levels and flags change one setting, so `fromLast_overridden` does not apply; the induction
  -- carries the level before the flags along.
  induction args using List.reverseRecOn with
  | nil => exact ⟨settings.debugLevel, rfl, rfl⟩
  | append_singleton args arg ih =>
    have before := ih fun earlier mem => wellFormed earlier (List.mem_append_left _ mem)
    obtain ⟨meaning, means⟩ :=
      (wellFormed arg (List.mem_append_right _ List.mem_cons_self)).exists_means
    rw [overridden_concat, overridden_of_means means]
    cases means with
    | @value kind text n plusArg denotes lt meant =>
      have bare := kind.append_ne_debugText text
      rcases override?_cases meant with ⟨rfl, rfl⟩ | ⟨rfl, policy, -, rfl⟩ | ⟨rfl, rfl⟩
      · exact before.concat_other
          (Kind.stripStart?_of_ne (show Kind.seed ≠ .debugLevel by decide) text) bare
      · exact before.concat_other
          (Kind.stripStart?_of_ne (show Kind.resetPolicy ≠ .debugLevel by decide) text) bare
      · refine LevelAfter.concat_level ?_
        show Denotes text (UInt32.ofNat n).toNat
        rwa [UInt32.toNat_ofNat_of_lt' lt]
    | flag => exact before.concat_flag
    | other unstarted ne => exact before.concat_other (unstarted .debugLevel) ne

/-! ### The level of the start-up -/

/-- The level that the start-up has after one more argument. -/
def startupLevel (level : UInt32) (arg : String) : UInt32 :=
  match stripStart? Kind.debugLevel.start arg with
  | some text => ((readNat Kind.debugLevel.bound text).map UInt32.ofNat).getD level
  | none => if arg = debugText then max level 1 else level

/-- The start-up takes its arguments in order. -/
lemma startupDebugLevel_eq_foldl (settings : GeneralSettings) (args : List String) :
    settings.startupDebugLevel args = args.foldl startupLevel settings.debugLevel := rfl

/-- A value behind the beginning of a level is read if it can be. -/
lemma startupLevel_append (level : UInt32) (text : String) :
    startupLevel level (Kind.debugLevel.start ++ text) =
      ((readNat Kind.debugLevel.bound text).map UInt32.ofNat).getD level := by
  rw [startupLevel, stripStart?_append]

/-- Of other arguments only the flag counts. -/
lemma startupLevel_of_none {arg : String} (none : stripStart? Kind.debugLevel.start arg = none)
    (level : UInt32) : startupLevel level arg = if arg = debugText then max level 1 else level := by
  rw [startupLevel, none]

/-- Values of other kinds do not count. -/
lemma startupLevel_of_ne {kind : Kind} (ne : kind ≠ .debugLevel) (level : UInt32) (text : String) :
    startupLevel level (kind.start ++ text) = level := by
  rw [startupLevel_of_none (Kind.stripStart?_of_ne ne text), if_neg (kind.append_ne_debugText text)]

/-- The start-up has the level that an argument leaves, or the level before it if the argument is
malformed. -/
lemma startupLevel_eq (settings : GeneralSettings) (arg : String) :
    startupLevel settings.debugLevel arg = (settings.overridden [arg]).debugLevel := by
  -- The two readers look for beginnings in different orders, and no argument has two.
  rcases means_or_malformed arg with ⟨meaning, means⟩ | ⟨cause, malformed⟩
  · rw [overridden_of_means means]
    cases means with
    | @value kind text n plusArg denotes lt meant =>
      rcases override?_cases meant with ⟨rfl, rfl⟩ | ⟨rfl, policy, -, rfl⟩ | ⟨rfl, rfl⟩
      · exact startupLevel_of_ne (by decide) _ text
      · exact startupLevel_of_ne (by decide) _ text
      · rw [startupLevel_append, readNat_eq_some_iff.mpr ⟨denotes, lt⟩]
        rfl
    | flag => rw [startupLevel_of_none (Kind.stripStart?_debugText _), if_pos rfl]; rfl
    | other unstarted ne => rw [startupLevel_of_none (unstarted _), if_neg ne]; rfl
  · rw [overridden_of_malformed malformed]
    cases malformed with
    | @value kind text none =>
      by_cases level : kind = .debugLevel
      · rw [level] at none ⊢
        rw [startupLevel_append, readNat_eq_none_iff.mpr none]
        rfl
      · exact startupLevel_of_ne level _ text
    | policy => exact startupLevel_of_ne (show Kind.resetPolicy ≠ .debugLevel by decide) _ _

/-- The start-up comes to the level that the arguments leave if malformed ones are passed over. -/
theorem startupDebugLevel_eq (settings : GeneralSettings) (args : List String) :
    settings.startupDebugLevel args = (settings.overridden args).debugLevel := by
  rw [startupDebugLevel_eq_foldl]
  induction args generalizing settings with
  | nil => rfl
  | cons arg args ih =>
    rw [List.foldl_cons, startupLevel_eq, ih, ← overridden_cons]

end GeneralSettings

end CycleSim
