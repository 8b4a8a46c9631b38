import CycleSim.Proofs.Context.Overrides

/-!
# Contexts by their arguments

What a context is built with follows from the list of arguments as a whole, with no fold over it:
`build_settled` gives the failure or every field of the context.  The log of the start-up, which
exists before the context does, has the level of the context that is built once malformed arguments
have been left out (`startupDebugLevel_agrees`).
-/

namespace CycleSim

open PlusArg Decimal GeneralSettings

namespace Context

variable {general : GeneralSettings} {coverage : CoverageSettings} {args : List String}
  {context : Context}

/-- A new context by its settings and arguments. -/
structure Settled (general : GeneralSettings) (coverage : CoverageSettings) (args : List String)
    (context : Context) : Prop where
  seed_eq : FromLast (fun text seed => Denotes text seed.toNat) seedStart args general.seed
    context.seed
  resetPolicy_eq : FromLast DenotesPolicy resetPolicyStart args general.resetPolicy
    context.resetPolicy
  debugLevel_eq : LevelAfter args general.debugLevel context.debugLevel
  timeUnit_eq : context.timeUnit = general.timeUnit
  /-- The stream is at its beginning. -/
  drawn_eq : context.stream.drawn = 0
  args_eq : context.args = args
  time_eq : context.time = 0
  clear : context.stopRequested = false
  coverage_eq : context.coverage = if coverage.enabled then some default else none

/-- Arguments settle one context. -/
lemma Settled.unique {context' : Context} (one : Settled general coverage args context)
    (other : Settled general coverage args context') : context = context' := by
  have seed : context.seed = context'.seed := by
    refine one.seed_eq.unique other.seed_eq ?_
    intro text seed seed' denotes denotes'
    exact UInt64.toNat_inj.mp (denotes.unique denotes')
  have resetPolicy := one.resetPolicy_eq.unique other.resetPolicy_eq DenotesPolicy.unique
  have debugLevel := one.debugLevel_eq.unique other.debugLevel_eq
  have timeUnit := one.timeUnit_eq.trans other.timeUnit_eq.symm
  have drawn := one.drawn_eq.trans other.drawn_eq.symm
  have given := one.args_eq.trans other.args_eq.symm
  have time := one.time_eq.trans other.time_eq.symm
  have latch := one.clear.trans other.clear.symm
  have database := one.coverage_eq.trans other.coverage_eq.symm
  obtain ⟨_, _, ⟨_, _⟩, _, _, _, _, _⟩ := context
  obtain ⟨_, _, ⟨_, _⟩, _, _, _, _, _⟩ := context'
  cases seed
  cases resetPolicy
  cases debugLevel
  cases timeUnit
  cases drawn
  cases given
  cases time
  cases latch
  cases database
  rfl

/-- A context is built exactly of well-formed arguments, with the settings that they leave. -/
lemma build_eq_ok_iff : build general coverage args = .ok context ↔
    (∀ arg ∈ args, WellFormed arg) ∧
      context = ofSettings coverage args (general.overridden args) := by
  constructor
  · intro built
    obtain ⟨settings, read, rfl⟩ := exists_settings_of_build built
    obtain ⟨wellFormed, rfl⟩ := overrideAll_eq_ok_iff.mp read
    exact ⟨wellFormed, rfl⟩
  · rintro ⟨wellFormed, rfl⟩
    rw [build_eq, overrideAll_eq_ok wellFormed]
    rfl

/-- Building fails as the reading of the arguments does. -/
lemma build_eq_error_iff {cause : ConfigError} : build general coverage args = .error cause ↔
    general.overrideAll args = .error cause := by
  rw [build_eq]
  cases general.overrideAll args with
  | error cause' => exact ⟨fun failed => congrArg _ (Except.error.inj failed),
      fun failed => congrArg _ (Except.error.inj failed)⟩
  | ok settings => exact ⟨nofun, nofun⟩

/-- Some context is built exactly of well-formed arguments. -/
lemma exists_build_iff :
    (∃ context, build general coverage args = .ok context) ↔ ∀ arg ∈ args, WellFormed arg := by
  constructor
  · rintro ⟨context, built⟩
    exact (build_eq_ok_iff.mp built).1
  · intro wellFormed
    exact ⟨_, build_eq_ok_iff.mpr ⟨wellFormed, rfl⟩⟩

/-- Contexts are built as their arguments settle them. -/
lemma settled_of_build (built : build general coverage args = .ok context) :
    Settled general coverage args context := by
  obtain ⟨wellFormed, rfl⟩ := build_eq_ok_iff.mp built
  exact
    { seed_eq := seed_overridden wellFormed
      resetPolicy_eq := resetPolicy_overridden wellFormed
      debugLevel_eq := debugLevel_overridden wellFormed
      timeUnit_eq := timeUnit_overridden general args
      drawn_eq := rfl
      args_eq := rfl
      time_eq := rfl
      clear := rfl
      coverage_eq := rfl }

/-- The context that is built is the one that well-formed arguments settle. -/
lemma build_eq_ok_iff_settled : build general coverage args = .ok context ↔
    (∀ arg ∈ args, WellFormed arg) ∧ Settled general coverage args context := by
  constructor
  · intro built
    exact ⟨(build_eq_ok_iff.mp built).1, settled_of_build built⟩
  · rintro ⟨wellFormed, settled⟩
    obtain ⟨context', built⟩ := exists_build_iff.mpr wellFormed
    rw [settled.unique (settled_of_build built)]
    exact built

/-- A context is built unless an argument is malformed, of which the first is the failure; its
fields are settled by the arguments, those apart that have none of the beginnings and are not the
flag. -/
theorem build_settled (general : GeneralSettings) (coverage : CoverageSettings)
    (args : List String) :
    ((∃ context, build general coverage args = .ok context) ↔ ∀ arg ∈ args, WellFormed arg) ∧
    (∀ cause, build general coverage args = .error cause ↔
      ∃ before arg after, args = before ++ arg :: after ∧
        (∀ earlier ∈ before, WellFormed earlier) ∧ Malformed arg cause) ∧
    (∀ context, build general coverage args = .ok context ↔
      (∀ arg ∈ args, WellFormed arg) ∧ Settled general coverage args context) ∧
    ∀ before arg after, args = before ++ arg :: after →
      (∀ kind : Kind, stripStart? kind.start arg = none) → arg ≠ debugText →
      build general coverage args =
        (build general coverage (before ++ after)).map fun context => { context with args } := by
  refine ⟨exists_build_iff, ?_, fun context => build_eq_ok_iff_settled, ?_⟩
  · intro cause
    rw [build_eq_error_iff, overrideAll_eq_error_iff]
  · rintro before arg after rfl unstarted ne
    rw [build_eq, build_eq, overrideAll_of_means_none (.other unstarted ne)]
    cases general.overrideAll (before ++ after) <;> rfl

/-- Arguments of several kinds, two of them flags on either side of a level. -/
def mixedArgs : List String :=
  ["+sim+seed+7", "+sim+debug", "+x", "+sim+debugi+0", "+sim+debug"]

/-- The context of `mixedArgs`: only the second flag raises the level. -/
def mixedContext : Context :=
  ofSettings {} mixedArgs { seed := 7, debugLevel := 1 }

/-- `mixedArgs` settle a context, of which one argument changes nothing but the list of arguments;
of two malformed arguments the first is the failure. -/
theorem build_settled_mixed :
    Settled {} {} mixedArgs mixedContext ∧
    build {} {} mixedArgs =
      (build {} {} ["+sim+seed+7", "+sim+debug", "+sim+debugi+0", "+sim+debug"]).map
        (fun context => { context with args := mixedArgs }) ∧
    build {} {} ["+sim+debug", "+sim+rand+reset+3", "+sim+seed+"] = .error (.unknownPolicy 3) := by
  obtain ⟨-, -, settled, idle⟩ := build_settled {} {} mixedArgs
  obtain ⟨-, fails, -, -⟩ :=
    build_settled {} {} ["+sim+debug", "+sim+rand+reset+3", "+sim+seed+"]
  have unstarted (kind : Kind) : stripStart? kind.start "+x" = none := by
    cases kind <;> decide
  have flag : WellFormed debugText := Means.flag.wellFormed
  have three : Malformed "+sim+rand+reset+3" (.unknownPolicy 3) := read_eq_error_iff.mp (by decide)
  refine ⟨((settled mixedContext).mp (by decide)).2, ?_, (fails _).mpr ?_⟩
  · exact idle ["+sim+seed+7", "+sim+debug"] "+x" ["+sim+debugi+0", "+sim+debug"] rfl unstarted
      (by decide)
  · exact ⟨["+sim+debug"], _, ["+sim+seed+"], rfl, List.forall_mem_singleton.mpr flag, three⟩

/-! ### The level of the start-up -/

/-- An argument on its own can be read exactly if it is well-formed. -/
lemma isOk_build_singleton_iff (general : GeneralSettings) (coverage : CoverageSettings)
    (arg : String) : (build general coverage [arg]).isOk = true ↔ WellFormed arg := by
  constructor
  · intro ok
    cases built : build general coverage [arg] with
    | error cause =>
      rw [built] at ok
      cases ok
    | ok context => exact (build_eq_ok_iff.mp built).1 arg List.mem_cons_self
  · intro wellFormed
    rw [build_eq, overrideAll_eq_ok (List.forall_mem_singleton.mpr wellFormed)]
    rfl

/-- Settings stay the same if malformed arguments are left out. -/
lemma overridden_filter {keep : String → Bool}
    (wellFormed : ∀ arg, WellFormed arg → keep arg = true) :
    general.overridden (args.filter keep) = general.overridden args := by
  unfold overridden
  rw [List.filterMap_filter]
  congr 1
  refine List.filterMap_congr fun arg _ => ?_
  rcases means_or_malformed arg with ⟨meaning, means⟩ | ⟨cause, malformed⟩
  · rw [if_pos (wellFormed arg means.wellFormed)]
  · rw [malformed.ofArg?_eq]
    exact ite_self _

/-- The start-up has the level of a context that is built. -/
lemma startupDebugLevel_of_build (built : build general coverage args = .ok context) :
    general.startupDebugLevel args = context.debugLevel := by
  obtain ⟨-, rfl⟩ := build_eq_ok_iff.mp built
  exact startupDebugLevel_eq general args

/-- Without the arguments that cannot be read on their own a context is built, and it has the level
that the start-up has with all of them; so has the context of all of them if it is built. -/
theorem startupDebugLevel_agrees (general : GeneralSettings) (coverage : CoverageSettings)
    (args : List String) :
    (∃ context,
      build general coverage (args.filter fun arg => (build general coverage [arg]).isOk) =
        .ok context ∧
      general.startupDebugLevel args = context.debugLevel) ∧
    ∀ context, build general coverage args = .ok context →
      general.startupDebugLevel args = context.debugLevel := by
  refine ⟨?_, fun context built => startupDebugLevel_of_build built⟩
  have alone := isOk_build_singleton_iff general coverage
  refine ⟨_, build_eq_ok_iff.mpr ⟨?_, rfl⟩, ?_⟩
  · intro arg kept
    exact (alone arg).mp (List.mem_filter.mp kept).2
  · rw [overridden_filter fun arg wellFormed => (alone arg).mpr wellFormed]
    exact startupDebugLevel_eq general args

/-- The start-up has level 2 in spite of a malformed level and a malformed seed, and the level of
the context of `mixedArgs`. -/
theorem startupDebugLevel_agrees_mixed :
    (∃ context, build {} {} ["+sim+debugi+2", "+sim+debug"] = .ok context ∧
      startupDebugLevel {} ["+sim+debugi+2", "+sim+debugi+x", "+sim+seed+", "+sim+debug"] =
        context.debugLevel) ∧
    startupDebugLevel {} mixedArgs = mixedContext.debugLevel := by
  have partly := startupDebugLevel_agrees {} {}
    ["+sim+debugi+2", "+sim+debugi+x", "+sim+seed+", "+sim+debug"]
  have wholly := startupDebugLevel_agrees {} {} mixedArgs
  have kept : (["+sim+debugi+2", "+sim+debugi+x", "+sim+seed+", "+sim+debug"].filter
      fun arg => (build {} {} [arg]).isOk) = ["+sim+debugi+2", "+sim+debug"] := by
    decide
  rw [kept] at partly
  exact ⟨partly.1, wholly.2 mixedContext (by decide)⟩

end Context

end CycleSim
