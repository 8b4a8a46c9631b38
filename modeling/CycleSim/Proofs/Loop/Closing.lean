import CycleSim.Proofs.Loop.Session
import CycleSim.Proofs.Loop.Storing

/-!
# Closing steps and the coverage file

The step that closes a loop is the only one that may touch a file, and it has three places to fail:
the model may refuse to be finalized, the coverage file may refuse to be opened, and the file may
not take the whole text.  `Closing` lists its outcomes, and `closing_step` says that there are no
others.

Whether a step opens a file is told by the openings that the host notes: a step that opens its
coverage file (`Opens`) adds one to them.  A step that leaves the files alone (`LeavesFiles`) adds
none, is the same step whatever file tree it finds and wherever its coverage file is to go, and
leaves the tree as it was.
-/

namespace CycleSim.Bench

variable {σ : Type} [DeviceModel σ]

/-- The step finds the loop running and asked to stop. -/
def Closes (bench : Bench σ) : Prop :=
  bench.loop.state = .running ∧ bench.asked = true

/-- A closing step stops the loop. -/
lemma Closes.state_eq {bench : Bench σ} (closes : bench.Closes) :
    bench.step.2.loop.state = .stopped := by
  obtain ⟨finished, points, covered, loop⟩ := bench.closed_loop
  rw [step_of_asked closes.1 closes.2]
  show bench.closed.loop.state = _
  rw [loop]

/-- A step that ends stopped has found the loop stopped or closes it. -/
lemma stopped_or_closes {bench : Bench σ} (ended : bench.step.1 = .ok .stopped) :
    bench.loop.state = .stopped ∨ bench.Closes := by
  have turn := turn_step bench
  generalize bench.step = outcome at turn ended
  cases turn with
  | rest stopped => exact .inl stopped
  | close running asked => exact .inr ⟨running, asked⟩
  | refuse => cases ended
  | tick =>
    cases evaluated : bench.loop.evaluation.result <;> rw [evaluated] at ended <;> cases ended

/-- A step that ends stopped leaves the loop stopped. -/
lemma state_eq_of_stopped {bench : Bench σ} (ended : bench.step.1 = .ok .stopped) :
    bench.step.2.loop.state = .stopped := by
  rcases stopped_or_closes ended with stopped | closes
  · rw [step_of_stopped stopped]
    exact stopped
  · exact closes.state_eq

/-- A closing step that stores its database ends well. -/
lemma step_of_stored {bench : Bench σ} (closes : bench.Closes)
    (agreed : (DeviceModel.finalize bench.loop.model).1 = .ok ())
    (compiled : bench.loop.build.coverage = true) {db : Coverage.Database}
    (enabled : bench.loop.context.coverage = some db) {files : FileTree}
    (storing : Storing bench.medium bench.loop.coveragePath db bench.host.files (.ok ()) files) :
    bench.step =
      (.ok .stopped, ((bench.checkFinished.2.finalized.stored files).reported db).conclude) := by
  have agreed' : (DeviceModel.finalize bench.checkFinished.2.loop.model).1 = .ok () := agreed
  rw [← bench.checkFinished_files] at storing
  rw [step_of_asked closes.1 closes.2, closed, shutdown_of_stored agreed' compiled enabled storing]
  rfl

/-- A closing step that fails to store its database ends with that failure, naming the path. -/
lemma step_of_unstored {bench : Bench σ} (closes : bench.Closes)
    (agreed : (DeviceModel.finalize bench.loop.model).1 = .ok ())
    (compiled : bench.loop.build.coverage = true) {db : Coverage.Database}
    (enabled : bench.loop.context.coverage = some db) {cause : FileError} {files : FileTree}
    (failed : Storing bench.medium bench.loop.coveragePath db bench.host.files (.error cause)
      files) :
    bench.step = (.error (.coverageWrite bench.loop.coveragePath cause),
      bench.checkFinished.2.finalized.stored files) := by
  have agreed' : (DeviceModel.finalize bench.checkFinished.2.loop.model).1 = .ok () := agreed
  rw [← bench.checkFinished_files] at failed
  rw [step_of_asked closes.1 closes.2, closed, shutdown_of_unstored agreed' compiled enabled failed]
  rfl

/-- The outcomes of a closing step, each with what leads to it. -/
inductive Closing (bench : Bench σ) : Except SimError LoopState × Bench σ → Prop where
  /-- The model refuses to close. -/
  | refused {cause : SimError}
      (refused : (DeviceModel.finalize bench.loop.model).1 = .error cause) :
      Closing bench (.error cause, bench.checkFinished.2.finalized)
  /-- The model closes and there is no coverage to write. -/
  | uncovered (agreed : (DeviceModel.finalize bench.loop.model).1 = .ok ())
      (uncovered : bench.loop.build.coverage = false ∨ bench.loop.context.coverage = none) :
      Closing bench (.ok .stopped, bench.checkFinished.2.finalized.conclude)
  /-- The model closes and the database cannot be stored. -/
  | unstored (agreed : (DeviceModel.finalize bench.loop.model).1 = .ok ())
      (compiled : bench.loop.build.coverage = true) {db : Coverage.Database}
      (enabled : bench.loop.context.coverage = some db) {cause : FileError} {files : FileTree}
      (failed : Storing bench.medium bench.loop.coveragePath db bench.host.files (.error cause)
        files) :
      Closing bench (.error (.coverageWrite bench.loop.coveragePath cause),
        bench.checkFinished.2.finalized.stored files)
  /-- The model closes and the database is stored. -/
  | stored (agreed : (DeviceModel.finalize bench.loop.model).1 = .ok ())
      (compiled : bench.loop.build.coverage = true) {db : Coverage.Database}
      (enabled : bench.loop.context.coverage = some db) {files : FileTree}
      (storing : Storing bench.medium bench.loop.coveragePath db bench.host.files (.ok ()) files) :
      Closing bench
        (.ok .stopped, ((bench.checkFinished.2.finalized.stored files).reported db).conclude)

/-- Every closing step has one of these outcomes. -/
theorem closing_step {bench : Bench σ} (closes : bench.Closes) : Closing bench bench.step := by
  have step := step_of_asked closes.1 closes.2
  cases closing : (DeviceModel.finalize bench.loop.model).1 with
  | error cause =>
    have refused : (DeviceModel.finalize bench.checkFinished.2.loop.model).1 = .error cause :=
      closing
    rw [step, closed, shutdown_of_refused refused]
    exact .refused closing
  | ok =>
    have agreed : (DeviceModel.finalize bench.checkFinished.2.loop.model).1 = .ok () := closing
    by_cases uncovered : bench.loop.build.coverage = false ∨ bench.loop.context.coverage = none
    · rw [step, closed, shutdown_of_uncovered agreed uncovered]
      exact .uncovered closing uncovered
    · obtain ⟨compiled, enabled⟩ := not_or.mp uncovered
      rw [Bool.not_eq_false] at compiled
      obtain ⟨db, enabled⟩ := Option.ne_none_iff_exists'.mp enabled
      obtain ⟨result, files, storing⟩ :=
        exists_storing bench.medium bench.loop.coveragePath db bench.host.files
      cases result with
      | error cause =>
        rw [step_of_unstored closes closing compiled enabled storing]
        exact .unstored closing compiled enabled storing
      | ok =>
        rw [step_of_stored closes closing compiled enabled storing]
        exact .stored closing compiled enabled storing

/-! ### Steps and files -/

/-- The step opens its coverage file, or tries to: it notes one opening, at the path that is set. -/
def Opens (bench : Bench σ) : Prop :=
  bench.step.2.host.openings = bench.host.openings ++ [bench.loop.coveragePath]

/-- The loop with its coverage file at another path, in another file tree. -/
def relocated (files : FileTree) (path : String) (bench : Bench σ) : Bench σ :=
  { bench with
    loop := bench.loop.withCoveragePath path
    host := { bench.host with files } }

/-- The step opens no file, and it neither looks at the files nor changes them: it is the same on
every file tree and for every path of the coverage file. -/
structure LeavesFiles (bench : Bench σ) : Prop where
  openings_eq : bench.step.2.host.openings = bench.host.openings
  step_relocated : ∀ files path,
    (bench.relocated files path).step = bench.step.map id (relocated files path)

/-- A step that leaves the files alone leaves them as they were. -/
lemma LeavesFiles.files_eq {bench : Bench σ} (leaves : bench.LeavesFiles) :
    bench.step.2.host.files = bench.host.files := by
  have here : bench.relocated bench.host.files bench.loop.coveragePath = bench := rfl
  have same := leaves.step_relocated bench.host.files bench.loop.coveragePath
  rw [here] at same
  exact congrArg (·.2.host.files) same

/-- A step that opens its coverage file does not leave the files alone. -/
lemma Opens.not_leavesFiles {bench : Bench σ} (opens : bench.Opens) : ¬bench.LeavesFiles := by
  intro leaves
  have same := leaves.openings_eq.symm.trans opens
  simp at same

/-- A look at the indicator does not depend on the files. -/
lemma checkFinished_relocated (bench : Bench σ) (files : FileTree) (path : String) :
    (bench.relocated files path).checkFinished.2 = bench.checkFinished.2.relocated files path := by
  cases signalled : !bench.loop.context.stopRequested && DeviceModel.finished bench.loop.model <;>
    simp only [checkFinished, relocated, Loop.withCoveragePath, signalled] <;> rfl

/-- A step that does not close the loop opens no file. -/
lemma openings_of_not_closes {bench : Bench σ} (noClosing : ¬bench.Closes) :
    bench.step.2.host.openings = bench.host.openings := by
  have turn := turn_step bench
  generalize bench.step = outcome at turn ⊢
  cases turn with
  | rest | refuse | tick => rfl
  | close running asked => exact absurd ⟨running, asked⟩ noClosing

/-- Only a closing step can touch a file. -/
lemma leavesFiles_of_not_closes {bench : Bench σ} (noClosing : ¬bench.Closes) :
    bench.LeavesFiles := by
  refine ⟨openings_of_not_closes noClosing, fun files path => ?_⟩
  have state : (bench.relocated files path).loop.state = bench.loop.state := rfl
  have asked' : (bench.relocated files path).asked = bench.asked := rfl
  have limit : (bench.relocated files path).loop.exceededLimit? = bench.loop.exceededLimit? := rfl
  have turn := turn_step bench
  generalize bench.step = outcome at turn ⊢
  cases turn with
  | rest stopped => exact step_of_stopped (state.trans stopped)
  | close running asked => exact absurd ⟨running, asked⟩ noClosing
  | refuse running clear exceeded =>
    exact step_of_exceeded (state.trans running) (asked'.trans clear) (limit.trans exceeded)
  | tick running clear below =>
    rw [step_of_below (state.trans running) (asked'.trans clear) (limit.trans below)]
    simp only [ticked, Loop.tick_snd]
    rfl

/-- A closing step leaves the files alone if its shutdown does, in every file tree. -/
lemma leavesFiles_of_shutdown {bench : Bench σ} (closes : bench.Closes)
    (openings : bench.checkFinished.2.shutdown.2.host.openings =
      bench.checkFinished.2.host.openings)
    (shutdown : ∀ files path, (bench.checkFinished.2.relocated files path).shutdown =
      bench.checkFinished.2.shutdown.map id (relocated files path)) : bench.LeavesFiles := by
  have step := step_of_asked closes.1 closes.2
  constructor
  · rw [step]
    exact openings.trans bench.checkFinished_openings
  · intro files path
    have running : (bench.relocated files path).loop.state = .running := closes.1
    have asked : (bench.relocated files path).asked = true := closes.2
    rw [step, step_of_asked running asked, closed, closed, checkFinished_relocated, shutdown]
    rfl

/-- A closing step whose model refuses to close leaves the files alone. -/
lemma leavesFiles_of_refused {bench : Bench σ} (closes : bench.Closes) {cause : SimError}
    (refused : (DeviceModel.finalize bench.loop.model).1 = .error cause) :
    bench.LeavesFiles := by
  have here : bench.checkFinished.2.shutdown = _ := shutdown_of_refused refused
  refine leavesFiles_of_shutdown closes (congrArg (·.2.host.openings) here) fun files path => ?_
  have there : (bench.checkFinished.2.relocated files path).shutdown = _ :=
    shutdown_of_refused refused
  rw [here, there]
  rfl

/-- A closing step without coverage leaves the files alone. -/
lemma leavesFiles_of_uncovered {bench : Bench σ} (closes : bench.Closes)
    (agreed : (DeviceModel.finalize bench.loop.model).1 = .ok ())
    (uncovered : bench.loop.build.coverage = false ∨ bench.loop.context.coverage = none) :
    bench.LeavesFiles := by
  have here : bench.checkFinished.2.shutdown = _ := shutdown_of_uncovered agreed uncovered
  refine leavesFiles_of_shutdown closes (congrArg (·.2.host.openings) here) fun files path => ?_
  have there : (bench.checkFinished.2.relocated files path).shutdown = _ :=
    shutdown_of_uncovered agreed uncovered
  rw [here, there]
  rfl

/-- A closing step with coverage opens its coverage file, once the model is finalized. -/
lemma opens_of_covered {bench : Bench σ} (closes : bench.Closes)
    (agreed : (DeviceModel.finalize bench.loop.model).1 = .ok ())
    (compiled : bench.loop.build.coverage = true) {db : Coverage.Database}
    (enabled : bench.loop.context.coverage = some db) : bench.Opens := by
  have noted := congrArg (· ++ [bench.loop.coveragePath]) bench.checkFinished_openings
  have outcome := closing_step closes
  unfold Opens
  generalize bench.step = after at outcome ⊢
  cases outcome with
  | refused refused => exact nomatch agreed.symm.trans refused
  | uncovered _ uncovered => simp [compiled, enabled] at uncovered
  | unstored | stored => exact noted

/-- The steps that open the coverage file are the closing steps with coverage whose model agrees to
close. -/
lemma opens_iff {bench : Bench σ} :
    bench.Opens ↔
      bench.Closes ∧ (DeviceModel.finalize bench.loop.model).1 = .ok () ∧
        bench.loop.build.coverage = true ∧ ∃ db, bench.loop.context.coverage = some db := by
  constructor
  · intro opens
    have closes : bench.Closes := by
      by_contra noClosing
      exact opens.not_leavesFiles (leavesFiles_of_not_closes noClosing)
    have outcome := closing_step closes
    generalize bench.step = after at outcome
    cases outcome with
    | refused refused => exact absurd (leavesFiles_of_refused closes refused) opens.not_leavesFiles
    | uncovered agreed uncovered =>
      exact absurd (leavesFiles_of_uncovered closes agreed uncovered) opens.not_leavesFiles
    | unstored agreed compiled enabled | stored agreed compiled enabled =>
      exact ⟨closes, agreed, compiled, _, enabled⟩
  · rintro ⟨closes, agreed, compiled, db, enabled⟩
    exact opens_of_covered closes agreed compiled enabled

/-- A step that opens its coverage file ends as storing its database does. -/
lemma Opens.exists_storing {bench : Bench σ} (opens : bench.Opens) {db : Coverage.Database}
    (enabled : bench.loop.context.coverage = some db) :
    ∃ result, Storing bench.medium bench.loop.coveragePath db bench.host.files result
        bench.step.2.host.files ∧
      bench.step.1 =
        (result.mapError (.coverageWrite bench.loop.coveragePath)).map fun _ => .stopped := by
  obtain ⟨closes, agreed, compiled, -⟩ := opens_iff.mp opens
  obtain ⟨result, files, storing⟩ :=
    CycleSim.exists_storing bench.medium bench.loop.coveragePath db bench.host.files
  cases result with
  | error cause =>
    rw [step_of_unstored closes agreed compiled enabled storing]
    exact ⟨.error cause, storing, rfl⟩
  | ok =>
    rw [step_of_stored closes agreed compiled enabled storing]
    exact ⟨.ok (), storing, rfl⟩

end CycleSim.Bench
