import Mathlib.Data.ENat.Lattice
import CycleSim.Model.Scripted
import CycleSim.Proofs.Loop.Lockstep

/-!
# How a run ends

A run can end in three ways: the model finishes, the tick limit is reached, or an evaluation fails.
Which of them ends the run of a new loop is decided by the model alone.  `driven` drives the model
without a loop, with levels that alternate from high; `finishTime` is the number of ticks after
which it finishes, `failTime` the number of its first evaluation that fails, and `limitTime` the
limit.  The least of the three decides, a finish before the limit and the limit before a failure
(`run_decided`).
-/

namespace CycleSim

/-- The least number with a property, infinite if there is none. -/
noncomputable def firstIndex (P : ℕ → Prop) : ℕ∞ :=
  sInf {n : ℕ∞ | ∃ m : ℕ, P m ∧ n = m}

/-- Numbers up to the first with a property are those below which none has it. -/
lemma le_firstIndex_iff {P : ℕ → Prop} {n : ℕ} :
    (n : ℕ∞) ≤ firstIndex P ↔ ∀ m < n, ¬P m := by
  refine le_sInf_iff.trans ⟨fun least m lt holds => ?_, fun least => ?_⟩
  · exact absurd (ENat.natCast_le_natCast.mp (least m ⟨m, holds, rfl⟩)) (not_le.mpr lt)
  · rintro _ ⟨m, holds, rfl⟩
    exact ENat.natCast_le_natCast.mpr (not_lt.mp fun lt => least m lt holds)

/-- Numbers below the first with a property are those up to which none has it. -/
lemma lt_firstIndex_iff {P : ℕ → Prop} {n : ℕ} :
    (n : ℕ∞) < firstIndex P ↔ ∀ m ≤ n, ¬P m := by
  have succ : (n : ℕ∞) < firstIndex P ↔ ((n + 1 : ℕ) : ℕ∞) ≤ firstIndex P := by
    rw [Nat.cast_add, Nat.cast_one, ENat.add_one_le_iff (ENat.natCast_ne_top n)]
  rw [succ, le_firstIndex_iff]
  exact ⟨fun h m le => h m (Nat.lt_succ_of_le le), fun h m lt => h m (Nat.le_of_lt_succ lt)⟩

/-- The first number with a property has it, and no smaller one does. -/
lemma firstIndex_eq_iff {P : ℕ → Prop} {n : ℕ} :
    firstIndex P = n ↔ P n ∧ ∀ m < n, ¬P m := by
  constructor
  · intro first
    refine ⟨?_, le_firstIndex_iff.mp first.ge⟩
    by_contra lacks
    refine (lt_firstIndex_iff.mpr fun m le => ?_).ne' first
    rcases Nat.lt_or_eq_of_le le with lt | rfl
    · exact le_firstIndex_iff.mp first.ge m lt
    · exact lacks
  · rintro ⟨holds, least⟩
    exact le_antisymm (sInf_le ⟨n, holds, rfl⟩) (le_firstIndex_iff.mpr least)

section Drive

variable {σ τ : Type} [DeviceModel σ] [DeviceModel τ]

/-- Evaluation number `n + 1` of a model that has been driven by `n` ticks. -/
def driveEvaluation (n : ℕ) (state : Context × σ) : Evaluation σ :=
  DeviceModel.evaluate state.1.advanceTime (DeviceModel.setClock (.wave (n + 1)) state.2)

/-- The context and the model after `n` ticks without a loop: the clock input is driven low, and
each tick moves time by one unit, drives the next level and evaluates. -/
def driven (context : Context) (model : σ) : ℕ → Context × σ
  | 0 => (context, DeviceModel.setClock .low model)
  | n + 1 =>
    let evaluation := driveEvaluation n (driven context model n)
    ((driven context model n).1.advanceTime.absorb evaluation, evaluation.model)

/-- The result of evaluation number `n + 1`. -/
def driveResult (context : Context) (model : σ) (n : ℕ) : Except SimError Unit :=
  (driveEvaluation n (driven context model n)).result

/-- Whether a run has to stop after `n` ticks: the latch was set from the beginning, or the model
has finished. -/
def FinishedAfter (context : Context) (model : σ) (n : ℕ) : Prop :=
  context.stopRequested = true ∨ DeviceModel.finished (driven context model n).2 = true

/-- Whether evaluation number `n`, counted from 1, fails. -/
def FailsAt (context : Context) (model : σ) (n : ℕ) : Prop :=
  ∃ m cause, n = m + 1 ∧ driveResult context model m = .error cause

/-- The number of ticks after which the model has finished; 0 if the latch is set. -/
noncomputable def finishTime (context : Context) (model : σ) : ℕ∞ :=
  firstIndex (FinishedAfter context model)

/-- The number of the first evaluation that fails. -/
noncomputable def failTime (context : Context) (model : σ) : ℕ∞ :=
  firstIndex (FailsAt context model)

/-- The tick limit, infinite if there is none. -/
def limitTime (limit : Option UInt64) : ℕ∞ :=
  limit.elim ⊤ fun ticks => (ticks.toNat : ℕ∞)

/-- The image of a model is driven as the model is. -/
lemma driven_map {f : σ → τ} (map : ModelMap f) (context : Context) (model : σ) (n : ℕ) :
    driven context (f model) n = (driven context model n).map id f := by
  induction n with
  | zero => rw [driven, driven, map.setClock]; rfl
  | succ n ih =>
    rw [driven, driven, ih]
    simp only [driveEvaluation, Prod.map, id, map.setClock, map.evaluate]
    rfl

/-- The image of a model has the same results. -/
lemma driveResult_map {f : σ → τ} (map : ModelMap f) (context : Context) (model : σ) :
    driveResult context (f model) = driveResult context model := by
  funext n
  simp only [driveResult, driveEvaluation, driven_map map, Prod.map, id, map.setClock,
    map.evaluate]
  rfl

/-- The image of a model finishes when the model does. -/
lemma finishTime_map {f : σ → τ} (map : ModelMap f) (context : Context) (model : σ) :
    finishTime context (f model) = finishTime context model := by
  unfold finishTime
  congr 1
  funext n
  simp only [FinishedAfter, driven_map map, Prod.map, map.finished]

/-- The image of a model fails when the model does. -/
lemma failTime_map {f : σ → τ} (map : ModelMap f) (context : Context) (model : σ) :
    failTime context (f model) = failTime context model := by
  unfold failTime
  congr 1
  funext n
  simp only [FailsAt, driveResult_map map]

/-- Driving never sets the latch. -/
lemma stopRequested_driven (context : Context) (model : σ) (n : ℕ) :
    (driven context model n).1.stopRequested = context.stopRequested := by
  induction n with
  | zero => rfl
  | succ n ih =>
    rw [driven, Context.stopRequested_absorb]
    exact ih

/-- Driving evaluates the model once in every tick and never finalizes it. -/
lemma journal_driven (context : Context) (model : σ) (n : ℕ) :
    (driven context (Recorded.blank model) n).2.journal.evaluations.length = n ∧
      (driven context (Recorded.blank model) n).2.journal.finalizations = 0 := by
  induction n with
  | zero => exact ⟨rfl, rfl⟩
  | succ n ih =>
    obtain ⟨evaluations, finalizations⟩ := ih
    rw [driven]
    simp only [driveEvaluation, DeviceModel.evaluate, DeviceModel.setClock,
      Evaluation.mapModel, Journal.evaluations_append, Journal.finalizations_append,
      List.length_append, evaluations, finalizations]
    exact ⟨rfl, rfl⟩

end Drive

namespace Bench

variable {σ : Type} [DeviceModel σ] {context : Context} {model : σ} {limit : Option UInt64}
  {files : FileTree} {medium : Medium} {n : ℕ} {bench : Bench σ}

/-- The loop has made `n` successful ticks since it was new and has not stopped. -/
structure Driven (context : Context) (model : σ) (limit : Option UInt64) (files : FileTree)
    (medium : Medium) (n : ℕ) (bench : Bench σ) : Prop where
  context_eq : bench.loop.context = (driven context model n).1
  model_eq : bench.loop.model = (driven context model n).2
  level_eq : bench.loop.clock.level = .wave n
  running : bench.loop.state = .running
  maxTicks_eq : bench.loop.maxTicks = limit
  ticks_eq : bench.loop.stats.ticks = .ofNat n
  files_eq : bench.host.files = files
  medium_eq : bench.medium = medium

/-- The loop is asked to stop when the driven model has finished. -/
lemma Driven.asked_iff (driven : Driven context model limit files medium n bench) :
    bench.asked = true ↔ FinishedAfter context model n := by
  rw [asked, Bool.or_eq_true_iff, driven.context_eq, driven.model_eq, stopRequested_driven]
  rfl

/-- The loop makes the evaluation of the driven model. -/
lemma Driven.evaluation (driven : Driven context model limit files medium n bench) :
    bench.loop.evaluation = driveEvaluation n (CycleSim.driven context model n) := by
  rw [Loop.evaluation, driveEvaluation, ← driven.context_eq, ← driven.model_eq, Level.wave_succ,
    ← driven.level_eq]
  rfl

/-- Below its limit the loop may tick. -/
lemma Driven.below (driven : Driven context model limit files medium n bench)
    (lt : (n : ℕ∞) < limitTime limit) : bench.loop.exceededLimit? = none := by
  rw [Loop.exceededLimit?, driven.maxTicks_eq, driven.ticks_eq]
  cases limit with
  | none => rfl
  | some ticks =>
    have lt' : n < ticks.toNat := ENat.natCast_lt_natCast.mp lt
    have fits := ticks.toNat_lt
    refine Option.filter_eq_none_iff.mpr ?_
    rintro _ ⟨rfl⟩
    rw [decide_eq_true_iff, UInt64.le_iff_toNat_le, UInt64.toNat_ofNat',
      Nat.mod_eq_of_lt (by omega)]
    omega

/-- At its limit the loop refuses to tick. -/
lemma Driven.exceeded {ticks : UInt64}
    (driven : Driven context model (some ticks) files medium ticks.toNat bench) :
    bench.loop.exceededLimit? = some ticks := by
  rw [Loop.exceededLimit?, driven.maxTicks_eq, driven.ticks_eq, UInt64.ofNat_toNat]
  exact Option.filter_eq_some_iff.mpr ⟨rfl, decide_eq_true (UInt64.le_refl _)⟩

/-- A successful tick drives the model on. -/
lemma Driven.ticked (driven : Driven context model limit files medium n bench)
    (passed : driveResult context model n = .ok ()) :
    Driven context model limit files medium (n + 1) bench.ticked := by
  have evaluation := driven.evaluation
  have passed' : bench.loop.evaluation.result = .ok () := by
    rw [evaluation]
    exact passed
  have loop : bench.ticked.loop = _ := bench.loop.tick_snd
  constructor
  · rw [loop, CycleSim.driven, ← evaluation, ← driven.context_eq]
    rfl
  · rw [loop, CycleSim.driven, ← evaluation]
  · rw [loop, Level.wave_succ, ← driven.level_eq]
    rfl
  · rw [loop]
    exact driven.running
  · rw [loop]
    exact driven.maxTicks_eq
  · rw [loop, passed', UInt64.ofNat_add, ← driven.ticks_eq]
    rfl
  · exact driven.files_eq
  · exact driven.medium_eq

/-- The ticks that come before all three ends succeed, and a run goes on behind them. -/
lemma Driven.exists_later {fresh : Bench σ}
    (driven : Driven context model limit files medium 0 fresh)
    (unfinished : (n : ℕ∞) ≤ finishTime context model)
    (unfailed : (n : ℕ∞) < failTime context model)
    (unlimited : (n : ℕ∞) ≤ limitTime limit) :
    ∃ bench, Driven context model limit files medium n bench ∧
      ∀ bound, fresh.stepsWithin (bound + n) = bench.stepsWithin bound := by
  induction n with
  | zero => exact ⟨fresh, driven, fun _ => rfl⟩
  | succ n ih =>
    have lt : (n : ℕ∞) < (n + 1 : ℕ) := ENat.natCast_lt_natCast.mpr n.lt_succ_self
    obtain ⟨bench, now, steps⟩ :=
      ih (lt.le.trans unfinished) (lt.trans unfailed) (lt.le.trans unlimited)
    -- After `n` ticks none of the three ends has come, in the order in which a step looks for them.
    have clear : bench.asked = false := by
      rw [Bool.eq_false_iff, Ne, now.asked_iff]
      exact le_firstIndex_iff.mp unfinished n n.lt_succ_self
    have passed : driveResult context model n = .ok () := by
      cases result : driveResult context model n with
      | ok => rfl
      | error cause =>
        exact absurd ⟨n, cause, rfl, result⟩ (lt_firstIndex_iff.mp unfailed (n + 1) le_rfl)
    have step := step_of_below now.running clear (now.below (lt.trans_le unlimited))
    have passed' : bench.loop.evaluation.result = .ok () := by
      rw [now.evaluation]
      exact passed
    rw [passed'] at step
    refine ⟨bench.ticked, now.ticked passed, fun bound => ?_⟩
    rw [← Nat.add_assoc, Nat.add_right_comm, steps, stepsWithin_of_running step]

/-! ### The run of a new loop -/

variable {build : Build} {host : Host} {path : String}

/-- A new loop has made no tick. -/
lemma driven_start (build : Build) (context : Context) (model : σ) (host : Host)
    (medium : Medium) (path : String) (limit : Option UInt64) :
    Driven context model limit host.files medium 0
      ((start build context model host medium).configured path limit).opened :=
  ⟨rfl, rfl, rfl, rfl, rfl, rfl, rfl, rfl⟩

/-- The journal holds the evaluations of the ticks and no finalization. -/
lemma Driven.journal {bench : Bench (Recorded σ)}
    (driven : Driven context (.blank model) limit files medium n bench) :
    bench.loop.model.journal.evaluations.length = n ∧
      bench.loop.model.journal.finalizations = 0 := by
  rw [driven.model_eq]
  exact journal_driven context model n

/-- The journal takes no part in when the model finishes and fails. -/
lemma times_blank (context : Context) (model : σ) :
    finishTime context (Recorded.blank model) = finishTime context model ∧
      failTime context (Recorded.blank model) = failTime context model :=
  ⟨(finishTime_map modelMap_model context (Recorded.blank model)).symm,
    (failTime_map modelMap_model context (Recorded.blank model)).symm⟩

/-- The journal takes no part in how the model is driven. -/
lemma driven_blank (context : Context) (model : σ) (n : ℕ) :
    CycleSim.driven context model n =
      (CycleSim.driven context (Recorded.blank model) n).map id Recorded.model :=
  driven_map modelMap_model context (Recorded.blank model) n

/-- Before all three ends a new loop with a journal makes its ticks. -/
lemma exists_driven (build : Build) (context : Context) (model : σ) (host : Host)
    (medium : Medium) (path : String) (limit : Option UInt64)
    (unfinished : (n : ℕ∞) ≤ finishTime context model)
    (unfailed : (n : ℕ∞) < failTime context model) (unlimited : (n : ℕ∞) ≤ limitTime limit) :
    ∃ bench, Driven context (Recorded.blank model) limit host.files medium n bench ∧
      ∀ bound, Bench.stepsWithin (bound + n)
          ((start build context (Recorded.blank model) host medium).configured path limit).opened =
        bench.stepsWithin bound := by
  obtain ⟨finish, fail⟩ := times_blank context model
  exact (driven_start build context (Recorded.blank model) host medium path limit).exists_later
    (unfinished.trans_eq finish.symm) (unfailed.trans_eq fail.symm) unlimited

/-- A run whose model finishes first ends with a shutdown after the last tick. -/
lemma run_finishes {t : ℕ} (finish : finishTime context model = t)
    (unfailed : finishTime context model < failTime context model)
    (unlimited : finishTime context model ≤ limitTime limit) :
    ∃ (last : Bench σ) (journal : Journal),
      last.loop.context = { (CycleSim.driven context model t).1 with stopRequested := true } ∧
      last.loop.model = (CycleSim.driven context model t).2 ∧
      last.host.files = host.files ∧ last.medium = medium ∧
      Journaled build context model host
        (runCalls path limit (last.shutdown.1.map fun _ => last.shutdown.2.loop.stats)) journal
        last.shutdown.2 medium ∧
      journal.evaluations.length = t ∧ journal.finalizations = 1 := by
  obtain ⟨bench, now, steps⟩ := exists_driven build context model host medium path limit finish.ge
    (finish ▸ unfailed) (finish ▸ unlimited)
  have asked : bench.asked = true :=
    now.asked_iff.mpr (firstIndex_eq_iff.mp ((times_blank context model).1.trans finish)).1
  have returned := (steps 1).trans (stepsWithin_of_asked now.running asked 0)
  -- The run is that of the model with its journal; without the journal it is the run wanted.
  have closing := shutdown_mapModel modelMap_model bench.checkFinished.2
  have image : CycleSim.driven context model t = (bench.loop.context, bench.loop.model.model) := by
    rw [now.context_eq, now.model_eq]
    exact driven_blank context model t
  obtain ⟨evaluations, finalizations⟩ := now.journal
  refine ⟨bench.checkFinished.2.mapModel Recorded.model, bench.closed.loop.model.journal, ?_, ?_,
    ?_, now.medium_eq, ⟨bench.closed, ?_, ?_, rfl⟩, ?_, ?_⟩
  · rw [image]
    exact congrArg (fun latch => { bench.loop.context with stopRequested := latch }) asked
  · rw [image]
    rfl
  · exact bench.checkFinished_files.trans now.files_eq
  · rw [closing]
    exact session_runCalls returned
  · rw [closing]
    rfl
  · rw [journal_closed, Journal.evaluations_append, List.length_append, evaluations]
    rfl
  · rw [journal_closed, Journal.finalizations_append, finalizations]
    rfl

/-- A run that reaches its limit first is refused its next tick. -/
lemma run_refused {ticks : UInt64} (set : limit = some ticks)
    (unfinished : limitTime limit < finishTime context model)
    (unfailed : limitTime limit < failTime context model) :
    ∃ (final : Bench σ) (journal : Journal),
      Journaled build context model host (runCalls path limit (.error (.tickLimitExceeded ticks)))
        journal final medium ∧
      journal.evaluations.length = ticks.toNat ∧ journal.finalizations = 0 ∧
      final.loop.state = .running ∧ final.host.files = host.files := by
  subst set
  have least : limitTime (some ticks) = (ticks.toNat : ℕ∞) := rfl
  obtain ⟨bench, now, steps⟩ := exists_driven build context model host medium path (some ticks)
    (least ▸ unfinished.le) (least ▸ unfailed) le_rfl
  have clear : bench.asked = false := by
    rw [Bool.eq_false_iff, Ne, now.asked_iff]
    rw [least, ← (times_blank context model).1] at unfinished
    exact lt_firstIndex_iff.mp unfinished _ le_rfl
  have returned := (steps 1).trans
    (stepsWithin_of_error (step_of_exceeded now.running clear now.exceeded) 0)
  obtain ⟨evaluations, finalizations⟩ := now.journal
  exact ⟨bench.mapModel Recorded.model, _, ⟨bench, session_runCalls returned, rfl, rfl⟩,
    evaluations, finalizations, now.running, now.files_eq⟩

/-- A run with an evaluation that fails first ends with its failure. -/
lemma run_fails {k : ℕ} (fail : failTime context model = k)
    (unfinished : failTime context model ≤ finishTime context model)
    (unlimited : failTime context model ≤ limitTime limit) :
    ∃ (cause : SimError) (final : Bench σ) (journal : Journal),
      driveResult context model (k - 1) = .error cause ∧
      Journaled build context model host (runCalls path limit (.error cause)) journal final
          medium ∧
      journal.evaluations.length = k ∧ journal.finalizations = 0 ∧
      final.loop.stats.ticks = .ofNat (k - 1) ∧
      final.loop.state = .running ∧ final.host.files = host.files := by
  obtain ⟨⟨n, cause, rfl, result⟩, -⟩ := firstIndex_eq_iff.mp fail
  rw [fail] at unfinished unlimited
  have lt : (n : ℕ∞) < (n + 1 : ℕ) := ENat.natCast_lt_natCast.mpr n.lt_succ_self
  obtain ⟨bench, now, steps⟩ := exists_driven build context model host medium path limit
    (lt.le.trans unfinished) (lt.trans_eq fail.symm) (lt.le.trans unlimited)
  have clear : bench.asked = false := by
    rw [Bool.eq_false_iff, Ne, now.asked_iff]
    rw [← (times_blank context model).1] at unfinished
    exact le_firstIndex_iff.mp unfinished n n.lt_succ_self
  have failed : bench.loop.evaluation.result = .error cause := by
    rw [now.evaluation]
    exact (congrFun (driveResult_map modelMap_model context (Recorded.blank model)) n).symm.trans
      result
  have step := step_of_below now.running clear (now.below (lt.trans_le unlimited))
  rw [failed] at step
  have returned := (steps 1).trans (stepsWithin_of_error step 0)
  have loop : bench.ticked.loop = _ := bench.loop.tick_snd
  obtain ⟨evaluations, finalizations⟩ := now.journal
  refine ⟨cause, bench.ticked.mapModel Recorded.model, bench.ticked.loop.model.journal, result,
    ⟨bench.ticked, session_runCalls returned, rfl, rfl⟩, ?_, ?_, ?_, ?_, now.files_eq⟩
  · rw [journal_ticked, Journal.evaluations_append, List.length_append, evaluations]
    rfl
  · rw [journal_ticked, Journal.finalizations_append, finalizations]
    rfl
  · show bench.ticked.loop.stats.ticks = _
    rw [loop, failed]
    exact now.ticks_eq
  · show bench.ticked.loop.state = _
    rw [loop]
    exact now.running

/-- A run with a limit returns after no more evaluations than the limit allows. -/
lemma run_returns {ticks : UInt64} (set : limit = some ticks) :
    ∃ (result : Except SimError RunStats) (final : Bench σ) (journal : Journal),
      Journaled build context model host (runCalls path limit result) journal final medium ∧
      journal.evaluations.length ≤ ticks.toNat := by
  have least : limitTime limit = (ticks.toNat : ℕ∞) := by
    rw [set]
    rfl
  -- A limit is finite, so one of the three ends comes first; a tie goes as a step decides it.
  by_cases refused :
      limitTime limit < finishTime context model ∧ limitTime limit < failTime context model
  · obtain ⟨final, journal, journaled, evaluations, -⟩ := run_refused set refused.1 refused.2
    exact ⟨_, final, journal, journaled, evaluations.le⟩
  rcases lt_or_ge (finishTime context model) (failTime context model) with unfailed | failed
  · have unlimited : finishTime context model ≤ limitTime limit :=
      not_lt.mp fun lt => refused ⟨lt, lt.trans unfailed⟩
    obtain ⟨t, finish⟩ := ENat.ne_top_iff_exists.mp (unlimited.trans_lt
      (least ▸ ENat.natCast_lt_top _)).ne
    obtain ⟨last, journal, -, -, -, -, journaled, evaluations, -⟩ :=
      run_finishes finish.symm unfailed unlimited
    refine ⟨_, _, journal, journaled, evaluations.le.trans ?_⟩
    exact ENat.natCast_le_natCast.mp (finish.le.trans (unlimited.trans_eq least))
  · have unlimited : failTime context model ≤ limitTime limit :=
      not_lt.mp fun lt => refused ⟨lt.trans_le failed, lt⟩
    obtain ⟨k, fail⟩ := ENat.ne_top_iff_exists.mp (unlimited.trans_lt
      (least ▸ ENat.natCast_lt_top _)).ne
    obtain ⟨cause, final, journal, -, journaled, evaluations, -⟩ :=
      run_fails fail.symm failed unlimited
    refine ⟨_, final, journal, journaled, evaluations.le.trans ?_⟩
    exact ENat.natCast_le_natCast.mp (fail.le.trans (unlimited.trans_eq least))

/-- A run that meets none of the three ends does not return. -/
lemma not_returns (finish : finishTime context model = ⊤) (fail : failTime context model = ⊤)
    (unlimited : limitTime limit = ⊤) (result : Except SimError RunStats) (final : Bench σ) :
    ¬Session (start build context model host medium) (runCalls path limit result) final := by
  intro session
  cases session with
  | cons setPath rest =>
    cases setPath
    cases rest with
    | cons setLimit rest =>
      cases setLimit
      cases rest with
      | cons run _ =>
        cases run with
        | run returned =>
          rename_i bound
          obtain ⟨bench, -, steps⟩ := (driven_start build context model host medium path
            limit).exists_later (finish ▸ le_top) (fail ▸ ENat.natCast_lt_top bound)
            (unlimited ▸ le_top)
          have endless := (steps 0).symm
          rw [Nat.zero_add, ← runWithin_eq] at endless
          exact Option.some_ne_none _ (returned.symm.trans endless.symm)

/-- The run of a new loop ends with whatever comes first.  If the model finishes after `t` ticks,
within the limit and before an evaluation fails, the run makes these ticks and answers as the
shutdown does.  If the limit comes first, it makes as many ticks and is refused the next one.  If
evaluation number `k` fails first, the run ends with its failure, which is no tick of the
statistics.  In the last two cases the loop is still running, the model is not finalized and the
files are as they were.  So a run with a limit always returns, with no more evaluations
than the limit; a run that meets none of the three ends never does. -/
theorem run_decided (build : Build) (context : Context) (model : σ) (host : Host)
    (medium : Medium) (path : String) (limit : Option UInt64) :
    (∀ t : ℕ, finishTime context model = t →
      finishTime context model < failTime context model →
      finishTime context model ≤ limitTime limit →
      ∃ (last : Bench σ) (journal : Journal),
        last.loop.context = { (CycleSim.driven context model t).1 with stopRequested := true } ∧
        last.loop.model = (CycleSim.driven context model t).2 ∧
        last.host.files = host.files ∧ last.medium = medium ∧
        Journaled build context model host
          (runCalls path limit (last.shutdown.1.map fun _ => last.shutdown.2.loop.stats)) journal
          last.shutdown.2 medium ∧
        journal.evaluations.length = t ∧ journal.finalizations = 1) ∧
    (∀ ticks, limit = some ticks →
      limitTime limit < finishTime context model →
      limitTime limit < failTime context model →
      ∃ (final : Bench σ) (journal : Journal),
        Journaled build context model host
          (runCalls path limit (.error (.tickLimitExceeded ticks))) journal final medium ∧
        journal.evaluations.length = ticks.toNat ∧ journal.finalizations = 0 ∧
        final.loop.state = .running ∧ final.host.files = host.files) ∧
    (∀ k : ℕ, failTime context model = k →
      failTime context model ≤ finishTime context model →
      failTime context model ≤ limitTime limit →
      ∃ (cause : SimError) (final : Bench σ) (journal : Journal),
        driveResult context model (k - 1) = .error cause ∧
        Journaled build context model host (runCalls path limit (.error cause)) journal final
          medium ∧
        journal.evaluations.length = k ∧ journal.finalizations = 0 ∧
        final.loop.stats.ticks = .ofNat (k - 1) ∧
        final.loop.state = .running ∧ final.host.files = host.files) ∧
    (∀ ticks, limit = some ticks →
      ∃ (result : Except SimError RunStats) (final : Bench σ) (journal : Journal),
        Journaled build context model host (runCalls path limit result) journal final medium ∧
        journal.evaluations.length ≤ ticks.toNat) ∧
    (finishTime context model = ⊤ → failTime context model = ⊤ → limitTime limit = ⊤ →
      ∀ (result : Except SimError RunStats) (final : Bench σ),
        ¬Session (start build context model host medium) (runCalls path limit result) final) :=
  ⟨fun _ => run_finishes, fun _ => run_refused, fun _ => run_fails, fun _ => run_returns,
    not_returns⟩

/-- The model that fails at its second evaluation does not finish before. -/
lemma times_faltering :
    failTime .plain Scripted.faltering = (2 : ℕ) ∧
      ((2 : ℕ) : ℕ∞) ≤ finishTime .plain Scripted.faltering := by
  constructor
  · refine firstIndex_eq_iff.mpr ⟨⟨1, .config (.reported "late"), rfl, rfl⟩, ?_⟩
    rintro m lt ⟨n, cause, rfl, failed⟩
    obtain rfl : n = 0 := by omega
    cases failed
  · refine le_firstIndex_iff.mpr fun m lt finished => ?_
    obtain rfl | rfl : m = 0 ∨ m = 1 := by omega
    all_goals exact absurd finished (by unfold FinishedAfter; decide)

/-- Without a limit the run of that model ends with its failure, and with limit 1 it is refused its
second tick. -/
theorem run_decided_faltering :
    (∃ (cause : SimError) (final : Bench Scripted) (journal : Journal),
      Journaled {} .plain .faltering {} (runCalls "cover" none (.error cause)) journal final ∧
        journal.evaluations.length = 2 ∧ final.loop.stats.ticks = 1) ∧
    (∃ (final : Bench Scripted) (journal : Journal),
      Journaled {} .plain .faltering {}
          (runCalls "cover" (some 1) (.error (.tickLimitExceeded 1))) journal final ∧
        journal.evaluations.length = 1 ∧ final.loop.state = .running) := by
  obtain ⟨fail, finish⟩ := times_faltering
  have one : limitTime (some 1) < (2 : ℕ) := ENat.natCast_lt_natCast.mpr (by decide)
  constructor
  · obtain ⟨-, -, fails, -⟩ := run_decided {} .plain Scripted.faltering {} {} "cover" none
    obtain ⟨cause, final, journal, -, journaled, evaluations, -, ticks, -⟩ :=
      fails 2 fail (fail.trans_le finish) le_top
    exact ⟨cause, final, journal, journaled, evaluations, ticks⟩
  · obtain ⟨-, refused, -⟩ := run_decided {} .plain Scripted.faltering {} {} "cover" (some 1)
    obtain ⟨final, journal, journaled, evaluations, -, running, -⟩ :=
      refused 1 rfl (one.trans_le finish) (one.trans_eq fail.symm)
    exact ⟨final, journal, journaled, evaluations, running⟩

end Bench

end CycleSim
