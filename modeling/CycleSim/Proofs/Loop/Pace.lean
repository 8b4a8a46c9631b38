import Mathlib.Algebra.Ring.Nat
import Mathlib.Logic.Function.Iterate
import CycleSim.Proofs.Loop.Lockstep
import CycleSim.Proofs.Loop.Trail

/-!
# The pace of a run

A step that leaves the loop running is a tick whose evaluation succeeds (`ticked_of_running`).  So
behind `n` such steps time and clock have moved by `n`, the statistics tell of `n` ticks, and
nothing else of the loop has changed but the model and what it records (`RunsOn.paced`).  A tick
limit makes no difference to the steps that come before it (`RunsOn.limited`).
-/

namespace CycleSim.Bench

variable {σ : Type} [DeviceModel σ] {first bench : Bench σ} {n : ℕ}

/-- A step that leaves the loop running is a tick of a running loop that is not asked to stop and
may tick, and the evaluation succeeds. -/
lemma ticked_of_running (runs : bench.step.1 = .ok .running) :
    bench.step.2 = bench.ticked ∧ bench.loop.state = .running ∧ bench.asked = false ∧
      bench.loop.exceededLimit? = none ∧ bench.loop.evaluation.result = .ok () := by
  have turn := turn_step bench
  generalize bench.step = outcome at turn runs ⊢
  cases turn with
  | rest => exact nomatch runs
  | close =>
    cases result : bench.checkFinished.2.shutdown.1 <;> rw [result] at runs <;> cases runs
  | refuse => exact nomatch runs
  | tick running clear below =>
    refine ⟨rfl, running, clear, below, ?_⟩
    cases result : bench.loop.evaluation.result with
    | ok => rfl
    | error cause =>
      rw [result] at runs
      exact nomatch runs

/-! ### What ticks change -/

/-- The loop has made `n` successful ticks since `first`. -/
structure Paced (first : Bench σ) (n : ℕ) (bench : Bench σ) : Prop where
  state_eq : bench.loop.state = first.loop.state
  build_eq : bench.loop.build = first.loop.build
  maxTicks_eq : bench.loop.maxTicks = first.loop.maxTicks
  coveragePath_eq : bench.loop.coveragePath = first.loop.coveragePath
  files_eq : bench.host.files = first.host.files
  medium_eq : bench.medium = first.medium
  clock_eq : bench.loop.clock = ClockDriver.tick^[n] first.loop.clock
  time_eq : bench.loop.context.time = first.loop.context.time + .ofNat n
  ticks_eq : bench.loop.stats.ticks = first.loop.stats.ticks + .ofNat n
  stats_eq : bench.loop.stats = { first.loop.stats with
    ticks := bench.loop.stats.ticks
    cycles := if n = 0 then first.loop.stats.cycles else bench.loop.clock.risingEdges
    simTime := if n = 0 then first.loop.stats.simTime else bench.loop.context.time }

/-- A word that has gone up by `n` goes up by one more. -/
lemma add_ofNat_succ (word : UInt64) (n : ℕ) :
    word + .ofNat n + 1 = word + .ofNat (n + 1) := by
  rw [UInt64.ofNat_add, ← UInt64.add_assoc]
  rfl

/-- A successful tick keeps the pace. -/
lemma Paced.ticked (paced : Paced first n bench)
    (passed : bench.loop.evaluation.result = .ok ()) : Paced first (n + 1) bench.ticked := by
  have loop : bench.ticked.loop = _ := bench.loop.tick_snd
  have time : bench.ticked.loop.context.time = bench.loop.context.time + 1 := by
    rw [loop]
    exact Context.time_absorb _ _
  have stats : bench.ticked.loop.stats = bench.loop.countedStats := by
    rw [loop, passed]
    rfl
  constructor
  · rw [loop]
    exact paced.state_eq
  · rw [loop]
    exact paced.build_eq
  · rw [loop]
    exact paced.maxTicks_eq
  · rw [loop]
    exact paced.coveragePath_eq
  · exact paced.files_eq
  · exact paced.medium_eq
  · rw [loop, Function.iterate_succ_apply', ← paced.clock_eq]
    rfl
  · rw [time, paced.time_eq, add_ofNat_succ]
  · rw [stats, Loop.countedStats, paced.ticks_eq, add_ofNat_succ]
  · have clock : bench.ticked.loop.clock = bench.loop.clock.tick := by
      rw [loop]
      rfl
    rw [if_neg n.succ_ne_zero, if_neg n.succ_ne_zero, stats, time, clock, Loop.countedStats,
      paced.stats_eq]

/-- Steps that leave the loop running keep the pace. -/
theorem RunsOn.paced (runs : first.RunsOn n) : Paced first n (first.stepped n) := by
  induction n with
  | zero =>
    exact ⟨rfl, rfl, rfl, rfl, rfl, rfl, rfl, (UInt64.add_zero _).symm, (UInt64.add_zero _).symm,
      rfl⟩
  | succ n ih =>
    obtain ⟨ticked, -, -, -, passed⟩ := ticked_of_running (runs n n.lt_succ_self)
    rw [stepped_succ, ticked]
    exact (ih fun k lt => runs k (Nat.lt_succ_of_lt lt)).ticked passed

/-- Ticks of a clock move it along the wave. -/
lemma ClockDriver.iterate_tick (n : ℕ) :
    ClockDriver.tick^[n] {} = ⟨.wave n, .ofNat n⟩ := by
  induction n with
  | zero => rfl
  | succ n ih =>
    rw [Function.iterate_succ_apply', ih, ClockDriver.tick, Level.wave_succ, UInt64.ofNat_add]
    rfl

/-! ### Ticks of a new loop -/

/-- The counters of a loop after `n` ticks from its beginning at time 0. -/
structure Counts (n : ℕ) (bench : Bench σ) : Prop where
  time : bench.loop.context.time.toNat = n
  edges : bench.loop.clock.edges.toNat = n
  ticks : bench.loop.stats.ticks.toNat = n
  cycles : bench.loop.stats.cycles.toNat = (n + 1) / 2
  simTime : bench.loop.stats.simTime.toNat = n

/-- As long as the ticks and their successor fit a word, the counters of a new loop are exact. -/
theorem RunsOn.counts {build : Build} {context : Context} {model : σ} {host : Host} {path : String}
    {limit : Option UInt64}
    (runs : ((start build context model host).configured path limit).opened.RunsOn n)
    (time : context.time = 0) (fits : n ≤ 2 ^ 64 - 2) :
    Counts n (((start build context model host).configured path limit).opened.stepped n) := by
  have paced := runs.paced
  generalize ((start build context model host).configured path limit).opened.stepped n = bench
    at paced ⊢
  have number : (UInt64.ofNat n).toNat = n := by
    rw [UInt64.toNat_ofNat', Nat.mod_eq_of_lt (by omega)]
  have clock : bench.loop.clock = ⟨.wave n, .ofNat n⟩ :=
    paced.clock_eq.trans (ClockDriver.iterate_tick n)
  have edges : bench.loop.clock.edges.toNat = n := by
    rw [clock, number]
  have now : bench.loop.context.time.toNat = n := by
    rw [paced.time_eq]
    show (context.time + _).toNat = n
    rw [time, UInt64.zero_add, number]
  constructor
  · exact now
  · exact edges
  · rw [paced.ticks_eq]
    exact (congrArg UInt64.toNat (UInt64.zero_add _)).trans number
  · rw [paced.stats_eq]
    show (if n = 0 then (0 : UInt64) else bench.loop.clock.risingEdges).toNat = _
    split
    · rename_i none
      rw [none]
      rfl
    · rw [ClockDriver.toNat_risingEdges (by omega), edges]
  · rw [paced.stats_eq]
    show (if n = 0 then (0 : UInt64) else bench.loop.context.time).toNat = _
    split
    · rename_i none
      rw [none]
      rfl
    · exact now

/-! ### Ticks below a limit -/

omit [DeviceModel σ] in
/-- The loop with another limit of its ticks. -/
def limited (limit : Option UInt64) (bench : Bench σ) : Bench σ :=
  { bench with loop := bench.loop.withMaxTicks limit }

/-- A tick does not depend on the limit. -/
lemma ticked_limited (limit : Option UInt64) (bench : Bench σ) :
    (bench.limited limit).ticked = bench.ticked.limited limit := by
  have loop : (bench.limited limit).ticked.loop = bench.ticked.loop.withMaxTicks limit := by
    show (bench.loop.withMaxTicks limit).tick.2 = bench.loop.tick.2.withMaxTicks limit
    rw [Loop.tick_snd, Loop.tick_snd]
    rfl
  exact congrArg (fun loop => { bench.ticked with loop }) loop

/-- A step that leaves a loop running does the same below any limit. -/
lemma step_limited {limit : Option UInt64} (runs : bench.step.1 = .ok .running)
    (below : ∀ ticks ∈ limit, bench.loop.stats.ticks < ticks) :
    (bench.limited limit).step = (.ok .running, bench.step.2.limited limit) := by
  obtain ⟨ticked, running, clear, -, passed⟩ := ticked_of_running runs
  have free : (bench.limited limit).loop.exceededLimit? = none := by
    refine Option.filter_eq_none_iff.mpr fun ticks mem => ?_
    rw [decide_eq_true_iff, UInt64.not_le]
    exact below ticks mem
  have passed' : (bench.limited limit).loop.evaluation.result = .ok () := passed
  have running' : (bench.limited limit).loop.state = .running := running
  have clear' : (bench.limited limit).asked = false := clear
  have step := step_of_below running' clear' free
  rw [passed'] at step
  rw [ticked, ← ticked_limited]
  exact step

/-- A loop makes the same steps under any limit that its ticks do not reach. -/
lemma RunsOn.limited_of_below {limit : Option UInt64} (runs : first.RunsOn n)
    (below : ∀ k < n, ∀ ticks ∈ limit, (first.stepped k).loop.stats.ticks < ticks) :
    (first.limited limit).RunsOn n ∧
      ∀ k ≤ n, (first.limited limit).stepped k = (first.stepped k).limited limit := by
  induction n with
  | zero =>
    refine ⟨runsOn_zero _, fun k le => ?_⟩
    obtain rfl : k = 0 := Nat.le_zero.mp le
    rfl
  | succ n ih =>
    obtain ⟨before, same⟩ := ih (fun k lt => runs k (Nat.lt_succ_of_lt lt))
      fun k lt => below k (Nat.lt_succ_of_lt lt)
    have step := step_limited (runs n n.lt_succ_self) (below n n.lt_succ_self)
    rw [← same n le_rfl] at step
    constructor
    · intro k lt
      rcases Nat.lt_succ_iff_lt_or_eq.mp lt with lt | rfl
      · exact before k lt
      · rw [step]
    · intro k le
      rcases Nat.le_succ_iff.mp le with le | rfl
      · exact same k le
      · rw [stepped_succ, stepped_succ, step]

/-- Below a limit a loop makes the steps that it makes without one. -/
theorem RunsOn.limited {limit : Option UInt64} (runs : first.RunsOn n)
    (within : ∀ ticks ∈ limit, first.loop.stats.ticks.toNat + n ≤ ticks.toNat) :
    (first.limited limit).RunsOn n ∧
      ∀ k ≤ n, (first.limited limit).stepped k = (first.stepped k).limited limit := by
  apply runs.limited_of_below
  intro k lt ticks mem
  have le := within ticks mem
  have fits := ticks.toNat_lt
  have before : first.RunsOn k := fun i lt' => runs i (Nat.lt_trans lt' lt)
  rw [before.paced.ticks_eq, UInt64.lt_iff_toNat_lt, UInt64.toNat_add, UInt64.toNat_ofNat']
  rw [Nat.mod_eq_of_lt (show k < 2 ^ 64 by omega), Nat.mod_eq_of_lt (by omega)]
  omega

end CycleSim.Bench
