import CycleSim.Proofs.Loop.CoverageFile
import CycleSim.Proofs.Loop.Edges
import CycleSim.Proofs.Loop.Pace

/-!
# Runs of edge-triggered models

A new loop over an edge-triggered model has an edge in every other tick, beginning with the first.
So if `edges` edges finish the work of the model and fewer do not, the run takes `2 * edges - 1`
ticks.  With a limit that allows them it ends with the coverage of all edges in its file
(`Ready.exists_finishing_run`); with a lower limit it makes as many ticks as the limit allows and
touches no file (`Ready.exists_refused_run`).  Without a limit it completes the work whatever
becomes of the coverage file (`Ready.exists_completing_run`).  `Reached` is what is true at every
step of such runs.
-/

namespace CycleSim

namespace Phase

/-- The phase of a clock that was never set back, after `n` ticks. -/
def after (n : ℕ) : Phase :=
  if n % 2 = 0 then low else high

/-- Every tick leads to the next phase. -/
lemma after_succ (n : ℕ) : after (n + 1) = (after n).next := by
  unfold after
  rcases Nat.mod_two_eq_zero_or_one n with even | odd
  · rw [if_pos even, if_neg (show ¬(n + 1) % 2 = 0 by omega)]
    rfl
  · rw [if_neg (show ¬n % 2 = 0 by omega), if_pos (show (n + 1) % 2 = 0 by omega)]
    rfl

/-- Every other tick has an edge, beginning with the first. -/
lemma edges_after (n : ℕ) : (n + 1) / 2 + (after n).edges = (n + 1 + 1) / 2 := by
  unfold after
  rcases Nat.mod_two_eq_zero_or_one n with even | odd
  · rw [if_pos even, edges]
    omega
  · rw [if_neg (show ¬n % 2 = 0 by omega), edges]
    omega

end Phase

namespace Bench

open EdgeTriggered

variable {σ : Type} [DeviceModel σ] [EdgeTriggered σ] {first bench : Bench σ} {edges n : ℕ}
  {build : Build} {context : Context} {model : σ} {host : Host} {path : String}
  {limit : Option UInt64}

/-- So many edges finish the work of the model, and fewer do not. -/
def FinishedBy (model : σ) (edges : ℕ) : Prop :=
  ∀ k, DeviceModel.finished (edge^[k] (work model)) = true ↔ edges ≤ k

/-- A loop that begins like the first makes its ticks up to the edge that finishes the work. -/
lemma Stands.stepped_after (ready : first.Ready) (stands : Stands first 0 0 .low bench)
    (finishes : FinishedBy first.loop.model edges) (le : n ≤ 2 * edges - 1) :
    bench.RunsOn n ∧ Stands first 0 ((n + 1) / 2) (.after n) (bench.stepped n) := by
  induction n with
  | zero => exact ⟨bench.runsOn_zero, stands⟩
  | succ n ih =>
    obtain ⟨runs, here⟩ := ih (by omega)
    have unfinished : DeviceModel.finished (bench.stepped n).loop.model = false := by
      rw [here.finished_eq, Bool.eq_false_iff, Ne, finishes]
      omega
    obtain ⟨step, next⟩ := here.step ready unfinished
    constructor
    · intro k lt
      rcases Nat.lt_succ_iff_lt_or_eq.mp lt with lt | rfl
      · exact runs k lt
      · rw [step]
    · rw [stepped_succ, step, Phase.after_succ, ← Phase.edges_after]
      exact next

/-- A new loop with its settings made and its run opened stands where it stood. -/
lemma Ready.stands_opened (ready : (start build context model host).Ready) (path : String) :
    Stands (start build context model host) 0 0 .low
      ((start build context model host).configured path none).opened :=
  { ready.stands with maxTicks_eq := rfl }

/-- The loop is where `n` ticks from the beginning lead, with its coverage file at `path`. -/
structure Reached (first : Bench σ) (path : String) (n : ℕ) (bench : Bench σ) : Prop where
  stands : Stands first 0 ((n + 1) / 2) (.after n) (bench.limited none)
  counts : Counts n bench
  coveragePath_eq : bench.loop.coveragePath = path

/-- A run of a new loop comes by all its ticks up to the edge that finishes the work and up to its
limit. -/
theorem Ready.reached (ready : (start build context model host).Ready) (time : context.time = 0)
    (finishes : FinishedBy (start build context model host).loop.model edges)
    (le : n ≤ 2 * edges - 1) (fits : n ≤ 2 ^ 64 - 2) (within : ∀ ticks ∈ limit, n ≤ ticks.toNat) :
    ((start build context model host).configured path limit).opened.RunsOn n ∧
      ∀ k ≤ n, Reached (start build context model host) path k
        (((start build context model host).configured path limit).opened.stepped k) := by
  let free := ((start build context model host).configured path none).opened
  have begins : Stands (start build context model host) 0 0 .low free := ready.stands_opened path
  have runs : free.RunsOn n := (begins.stepped_after ready finishes le).1
  have within' : ∀ ticks ∈ limit, free.loop.stats.ticks.toNat + n ≤ ticks.toNat := by
    intro ticks mem
    rw [show free.loop.stats.ticks.toNat = 0 from rfl, Nat.zero_add]
    exact within ticks mem
  obtain ⟨limitedRuns, same⟩ := runs.limited within'
  refine ⟨limitedRuns, fun k small => ?_⟩
  have runs' : ((start build context model host).configured path limit).opened.RunsOn k :=
    fun j lt => limitedRuns j (Nat.lt_of_lt_of_le lt small)
  refine ⟨?_, runs'.counts time (Nat.le_trans small fits), runs'.paced.coveragePath_eq⟩
  have here : ((start build context model host).configured path limit).opened.stepped k =
      (free.stepped k).limited limit := same k small
  have stands := (begins.stepped_after ready finishes (Nat.le_trans small le)).2
  rw [here]
  exact { stands with maxTicks_eq := rfl }

/-! ### What is true at every step -/

/-- The work that is done after so many ticks. -/
lemma Reached.work_eq (reached : Reached first path n bench) :
    work bench.loop.model = edge^[(n + 1) / 2] (work first.loop.model) :=
  reached.stands.work_eq

/-- The coverage that is recorded after so many ticks. -/
lemma Reached.coverage_eq (reached : Reached first path n bench) :
    bench.loop.context.coverage = first.loop.context.coverage.map
      (·.recordAll (trace (work first.loop.model) ((n + 1) / 2))) := by
  have context : bench.loop.context = _ := reached.stands.context_eq
  rw [context]
  rfl

/-- The next evaluation succeeds. -/
lemma Reached.evaluation (ready : first.Ready) (reached : Reached first path n bench) :
    bench.loop.evaluation.result = .ok () := by
  have sound : Sound (work (bench.limited none).loop.edge.model) := reached.stands.sound ready
  exact result_evaluate _ sound

/-- The latch is clear, so the loop is asked to stop by the model only. -/
lemma Reached.asked_eq (ready : first.Ready) (reached : Reached first path n bench) :
    bench.asked = DeviceModel.finished bench.loop.model := by
  have asked : (bench.limited none).asked = _ := reached.stands.asked_eq ready
  exact asked

/-- The model has finished once the ticks had enough edges. -/
lemma Reached.finished_iff (reached : Reached first path n bench)
    (finishes : FinishedBy first.loop.model edges) :
    DeviceModel.finished bench.loop.model = true ↔ edges ≤ (n + 1) / 2 := by
  rw [← finishes, ← reached.work_eq, finished_work]

/-- The loop closes once the ticks had enough edges. -/
lemma Reached.closes_iff (ready : first.Ready) (reached : Reached first path n bench)
    (finishes : FinishedBy first.loop.model edges) : bench.Closes ↔ edges ≤ (n + 1) / 2 := by
  rw [← reached.finished_iff finishes, Closes, reached.asked_eq ready]
  exact and_iff_right reached.stands.running

/-- A loop that closes finalizes its model with success. -/
lemma Reached.finalize (ready : first.Ready) (reached : Reached first path n bench)
    (closes : bench.Closes) : (DeviceModel.finalize bench.loop.model).1 = .ok () :=
  finalize_fst ((reached.asked_eq ready).symm.trans closes.2)

/-- A loop that does not close is refused the tick behind its limit. -/
lemma Reached.refused {ticks : UInt64} (reached : Reached first path ticks.toNat bench)
    (noClosing : ¬bench.Closes) (limit : bench.loop.maxTicks = some ticks) :
    bench.step = (.error (.tickLimitExceeded ticks), bench) := by
  have running : bench.loop.state = .running := reached.stands.running
  have clear : bench.asked = false := by
    rw [Bool.eq_false_iff]
    exact fun asked => noClosing ⟨running, asked⟩
  refine step_of_exceeded running clear ?_
  rw [Loop.exceededLimit?, limit]
  refine Option.filter_eq_some_iff.mpr ⟨rfl, decide_eq_true ?_⟩
  rw [UInt64.le_iff_toNat_le, reached.counts.ticks]

/-! ### The end of the work -/

/-- The run has made the edges that finish the work, and the coverage of all of them is recorded. -/
structure Completes (first : Bench σ) (edges : ℕ) (last : Bench σ) : Prop where
  ticks : last.loop.stats.ticks.toNat = 2 * edges - 1
  work_eq : work last.loop.model = edge^[edges] (work first.loop.model)
  coverage_eq : last.loop.context.coverage = first.loop.context.coverage.map
    (·.recordAll (trace (work first.loop.model) edges))

/-- The closing step at the edge that finishes the work leaves it finished, and ends well if its
coverage file can be written. -/
lemma Reached.completes (ready : first.Ready) (reached : Reached first path (2 * edges - 1) bench)
    (finishes : FinishedBy first.loop.model edges) :
    bench.step.1 ≠ .ok .running ∧ Completes first edges bench.step.2 ∧
      ((first.configured path none).CoverageWritable → bench.step.1 = .ok .stopped) := by
  have all : (2 * edges - 1 + 1) / 2 = edges := by omega
  have closes : bench.Closes := (reached.closes_iff ready finishes).mpr (Nat.le_of_eq all.symm)
  obtain ⟨_, _, _, loop⟩ := bench.closed_loop
  have model : bench.closed.loop.model = bench.loop.model := by
    rw [loop]
    exact finalize_snd _
  rw [step_of_asked closes.1 closes.2]
  refine ⟨?_, ⟨?_, ?_, ?_⟩, fun writable => ?_⟩
  · cases bench.checkFinished.2.shutdown.1 <;> exact nofun
  · rw [loop]
    exact reached.counts.ticks
  · rw [model, reached.work_eq, all]
  · rw [loop]
    exact all ▸ reached.coverage_eq
  · have agreed : (DeviceModel.finalize bench.loop.model).1 = .ok () :=
      reached.finalize ready closes
    have place : bench.checkFinished.2.CoverageWritable :=
      reached.stands.coverageWritable reached.coveragePath_eq writable
    have closing : bench.checkFinished.2.shutdown.1 = .ok () := shutdown_ok agreed place
    rw [closing]
    rfl

/-! ### The ends of a run -/

/-- A run that ends well at the edge that finishes the work: so many ticks are counted, the work is
done, and what `db` has become with the coverage of all its edges is in the file. -/
structure Finishes (first : Bench σ) (path : String) (edges : ℕ) (db : Coverage.Database)
    (last : Bench σ) : Prop where
  ticks : last.loop.stats.ticks.toNat = 2 * edges - 1
  simTime : last.loop.stats.simTime.toNat = 2 * edges - 1
  cycles : last.loop.stats.cycles.toNat = edges
  finished : last.loop.stats.finished = true
  work_eq : work last.loop.model = edge^[edges] (work first.loop.model)
  points : last.loop.stats.coveragePoints =
    (db.recordAll (trace (work first.loop.model) edges)).size
  holds : last.host.files.readBytes path =
    .ok (db.recordAll (trace (work first.loop.model) edges)).text.toUTF8

/-- A closing step with coverage and a path that can be written writes the coverage of all edges. -/
lemma Reached.exists_writes (ready : first.Ready) (reached : Reached first path n bench)
    (closes : bench.Closes) (compiled : first.loop.build.coverage = true) {db : Coverage.Database}
    (enabled : first.loop.context.coverage = some db) (unbounded : first.medium.room = none)
    {place : Location} (writable : first.host.files.writablePlace path = .ok place) :
    ∃ files, bench.Writes
      (db.recordAll (trace (work first.loop.model) ((n + 1) / 2))).text.toUTF8 files := by
  have build : bench.loop.build = first.loop.build := reached.stands.build_eq
  have files : bench.host.files = first.host.files := reached.stands.files_eq
  have recorded : bench.loop.context.coverage =
      some (db.recordAll (trace (work first.loop.model) ((n + 1) / 2))) := by
    rw [reached.coverage_eq, enabled]
    rfl
  have medium : bench.medium = first.medium := reached.stands.medium_eq
  rw [← reached.coveragePath_eq, ← files] at writable
  rw [← build] at compiled
  rw [← medium] at unbounded
  obtain ⟨after, storing⟩ := exists_whole unbounded writable _
  exact ⟨after, writes_iff.mpr ⟨closes, reached.finalize ready closes, compiled, _, recorded, rfl,
    storing⟩⟩

/-- The closing step at the edge that finishes the work ends well and writes the coverage file. -/
lemma Reached.finishes (ready : first.Ready) (reached : Reached first path (2 * edges - 1) bench)
    (finishes : FinishedBy first.loop.model edges) (compiled : first.loop.build.coverage = true)
    {db : Coverage.Database} (enabled : first.loop.context.coverage = some db)
    (unbounded : first.medium.room = none) {place : Location}
    (writable : first.host.files.writablePlace path = .ok place) :
    bench.step.1 = .ok .stopped ∧ Finishes first path edges db bench.step.2 := by
  have all : (2 * edges - 1 + 1) / 2 = edges := by omega
  have closes : bench.Closes := (reached.closes_iff ready finishes).mpr (Nat.le_of_eq all.symm)
  obtain ⟨files, writes⟩ := reached.exists_writes ready closes compiled enabled unbounded writable
  rw [all] at writes
  obtain ⟨ended, finished, db', sink, recorded, -, -, points, -⟩ := writes.after
  obtain ⟨-, completes, -⟩ := reached.completes ready finishes
  have same : db' = db.recordAll (trace (work first.loop.model) edges) := by
    have counted := completes.coverage_eq
    rw [recorded, enabled] at counted
    exact Option.some.inj counted
  subst same
  obtain ⟨_, _, _, loop⟩ := bench.closed_loop
  have stopped : bench.step.2 = bench.closed := by
    rw [step_of_asked closes.1 closes.2]
  refine ⟨ended, completes.ticks, ?_, ?_, finished, completes.work_eq, points, ?_⟩
  · rw [stopped, loop]
    exact reached.counts.simTime
  · rw [stopped, loop]
    exact reached.counts.cycles.trans all
  · rw [writes.files_eq, ← reached.coveragePath_eq]
    exact writes.readBytes_eq

/-- With a limit that allows it, the run of a new loop ends well at the edge that finishes the
work. -/
theorem Ready.exists_finishing_run (ready : (start build context model host).Ready)
    (time : context.time = 0)
    (finishes : FinishedBy (start build context model host).loop.model edges)
    (fits : 2 * edges - 1 ≤ 2 ^ 64 - 2) (compiled : build.coverage = true)
    {db : Coverage.Database} (enabled : context.coverage = some db) {place : Location}
    (writable : host.files.writablePlace path = .ok place)
    (within : ∀ ticks ∈ limit, 2 * edges - 1 ≤ ticks.toNat) :
    ∃ steps last,
      Trail (start build context model host) (runCalls path limit (.ok last.loop.stats)) steps
        last ∧
      (∀ step ∈ steps, ∃ n ≤ 2 * edges - 1,
        Reached (start build context model host) path n step) ∧
      Finishes (start build context model host) path edges db last := by
  obtain ⟨runs, reached⟩ := ready.reached time finishes le_rfl fits within
  obtain ⟨answer, ended⟩ :=
    (reached _ le_rfl).finishes ready finishes compiled enabled rfl writable
  rw [← stepped_succ] at ended
  refine ⟨_, _, trail_runCalls runs answer nofun, fun step mem => ?_, ended⟩
  obtain ⟨n, lt, rfl⟩ := List.mem_map.mp mem
  have le := Nat.lt_succ_iff.mp (List.mem_range.mp lt)
  exact ⟨n, le, reached n le⟩

/-- With a lower limit, the run of a new loop is refused the tick behind its limit, and no step
opens a file. -/
theorem Ready.exists_refused_run (ready : (start build context model host).Ready) (path : String)
    (time : context.time = 0)
    (finishes : FinishedBy (start build context model host).loop.model edges) {ticks : UInt64}
    (lt : ticks.toNat < 2 * edges - 1) (fits : ticks.toNat ≤ 2 ^ 64 - 2) :
    ∃ steps last,
      Trail (start build context model host)
        (runCalls path (some ticks) (.error (.tickLimitExceeded ticks))) steps last ∧
      (∀ step ∈ steps, step.LeavesFiles ∧
        ∃ n ≤ ticks.toNat, Reached (start build context model host) path n step) ∧
      Reached (start build context model host) path ticks.toNat last := by
  have within : ∀ ticks' ∈ some ticks, ticks.toNat ≤ ticks'.toNat := by
    rintro _ ⟨rfl⟩
    exact le_rfl
  obtain ⟨runs, reached⟩ :
      ((start build context model host).configured path (some ticks)).opened.RunsOn ticks.toNat ∧
        _ :=
    ready.reached time finishes (Nat.le_of_lt lt) fits within
  have noClosing {n : ℕ} {step : Bench σ} (le : n ≤ ticks.toNat)
      (here : Reached (start build context model host) path n step) : ¬step.Closes := by
    rw [here.closes_iff ready finishes]
    omega
  have here := reached _ le_rfl
  have step := here.refused (noClosing le_rfl here) runs.paced.maxTicks_eq
  have trail := trail_runCalls runs (congrArg Prod.fst step) nofun
  rw [stepped_succ, step] at trail
  refine ⟨_, _, trail, fun step mem => ?_, here⟩
  obtain ⟨n, lt, rfl⟩ := List.mem_map.mp mem
  have le := Nat.lt_succ_iff.mp (List.mem_range.mp lt)
  exact ⟨leavesFiles_of_not_closes (noClosing le (reached n le)), n, le, reached n le⟩

/-- The run of a new loop without a limit completes the work. -/
theorem Ready.exists_completing_run (ready : (start build context model host).Ready)
    (path : String) (time : context.time = 0)
    (finishes : FinishedBy (start build context model host).loop.model edges)
    (fits : 2 * edges - 1 ≤ 2 ^ 64 - 2) :
    ∃ result last,
      Session (start build context model host) (runCalls path none result) last ∧
      Completes (start build context model host) edges last ∧
      (((start build context model host).configured path none).CoverageWritable →
        result = .ok last.loop.stats) := by
  obtain ⟨runs, reached⟩ :
      ((start build context model host).configured path none).opened.RunsOn (2 * edges - 1) ∧ _ :=
    ready.reached time finishes le_rfl fits nofun
  obtain ⟨ends, completes, well⟩ := (reached _ le_rfl).completes ready finishes
  rw [← stepped_succ] at completes
  refine ⟨_, _, (trail_runCalls runs rfl ends).session, completes, fun writable => ?_⟩
  rw [well writable]
  rfl

end Bench

end CycleSim
