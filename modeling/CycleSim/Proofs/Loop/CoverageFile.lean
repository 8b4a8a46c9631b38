import CycleSim.Model.Scripted
import CycleSim.Proofs.FileTree.Writing
import CycleSim.Proofs.Loop.Closing
import CycleSim.Proofs.Loop.Journal
import CycleSim.Proofs.Loop.Trail

/-!
# The coverage file of a session

In every session the steps fall into three parts: steps that leave the loop open, at most one step
that closes it, and steps of a closed loop, which do nothing (`Stage`).  So the coverage file is
opened at most once, in the step that finalizes the model, and the statistics tell of coverage
exactly if the file was written (`session_coverage`).  Nothing of this depends on the model, on the
order of the calls or on what follows a failure.
-/

namespace CycleSim

/-- A model that hits one coverage point at its first evaluation and is finished then. -/
def Scripted.touching : Scripted where
  script := { finishFrom := 1, cover := [(1, "p", 2)] }

namespace Bench

section Stages

variable {σ : Type} [DeviceModel σ]

/-- Two benches agree in everything but the settings of the loop and the log. -/
structure Agrees (first second : Bench σ) : Prop where
  context_eq : first.loop.context = second.loop.context
  model_eq : first.loop.model = second.loop.model
  clock_eq : first.loop.clock = second.loop.clock
  state_eq : first.loop.state = second.loop.state
  stats_eq : first.loop.stats = second.loop.stats
  files_eq : first.host.files = second.host.files
  openings_eq : first.host.openings = second.host.openings

omit [DeviceModel σ] in
/-- A bench agrees with itself. -/
lemma Agrees.refl (bench : Bench σ) : Agrees bench bench :=
  ⟨rfl, rfl, rfl, rfl, rfl, rfl, rfl⟩

/-- The loop has not closed: it runs, its statistics tell nothing of a shutdown, and the files are
those of `first`, none having been opened. -/
structure Unclosed (first bench : Bench σ) : Prop where
  running : bench.loop.state = .running
  build_eq : bench.loop.build = first.loop.build
  medium_eq : bench.medium = first.medium
  files_eq : bench.host.files = first.host.files
  openings_eq : bench.host.openings = first.host.openings
  coveragePoints_eq : bench.loop.stats.coveragePoints = 0
  coverageCovered_eq : bench.loop.stats.coverageCovered = 0
  finished_eq : bench.loop.stats.finished = false

/-- How far a loop has come since `first` with steps at these places. -/
inductive Stage (first : Bench σ) : List (Bench σ) → Bench σ → Prop where
  /-- No step has closed the loop. -/
  | unclosed {steps : List (Bench σ)} {bench : Bench σ} (here : Unclosed first bench)
      (noClosing : ∀ step ∈ steps, ¬step.Closes) : Stage first steps bench
  /-- One step has closed the loop, and nothing has changed since. -/
  | closed {before later : List (Bench σ)} {closing bench : Bench σ}
      (noClosing : ∀ step ∈ before, ¬step.Closes) (here : Unclosed first closing)
      (closes : closing.Closes) (rest : ∀ step ∈ later, ¬step.Closes)
      (agrees : Agrees bench closing.step.2) : Stage first (before ++ closing :: later) bench

/-- A step that does not close a loop leaves it unclosed. -/
lemma Unclosed.step {first bench : Bench σ} (here : Unclosed first bench)
    (noClosing : ¬bench.Closes) : Unclosed first bench.step.2 := by
  have turn := turn_step bench
  generalize bench.step = outcome at turn ⊢
  cases turn with
  | rest | refuse => exact here
  | close running asked => exact absurd ⟨running, asked⟩ noClosing
  | tick =>
    have loop : bench.ticked.loop = _ := bench.loop.tick_snd
    have stats : bench.ticked.loop.stats.coveragePoints = bench.loop.stats.coveragePoints ∧
        bench.ticked.loop.stats.coverageCovered = bench.loop.stats.coverageCovered ∧
        bench.ticked.loop.stats.finished = bench.loop.stats.finished := by
      rw [loop]
      dsimp only
      split <;> exact ⟨rfl, rfl, rfl⟩
    obtain ⟨points, covered, finished⟩ := stats
    constructor
    · rw [loop]
      exact here.running
    · rw [loop]
      exact here.build_eq
    · exact here.medium_eq
    · exact here.files_eq
    · exact here.openings_eq
    · exact points.trans here.coveragePoints_eq
    · exact covered.trans here.coverageCovered_eq
    · exact finished.trans here.finished_eq

/-- The stage of a loop goes on with each step, and the log and the settings do not touch it. -/
lemma stage_invariant (first : Bench σ) : TrailInvariant (Stage first) where
  step := by
    intro steps bench stage
    cases stage with
    | unclosed here noClosing =>
      by_cases closes : bench.Closes
      · exact .closed noClosing here closes (List.forall_mem_nil _) (.refl _)
      · refine .unclosed (here.step closes) fun step mem => ?_
        rcases List.mem_append.mp mem with mem | mem
        · exact noClosing step mem
        · rwa [List.mem_singleton.mp mem]
    | closed noClosing here closes rest agrees =>
      rename_i before later closing
      have stopped : bench.loop.state = .stopped := agrees.state_eq.trans closes.state_eq
      rw [step_of_stopped stopped, List.append_assoc, List.cons_append]
      refine .closed noClosing here closes (fun step mem => ?_) agrees
      rcases List.mem_append.mp mem with mem | mem
      · exact rest step mem
      · rw [List.mem_singleton.mp mem]
        rintro ⟨running, -⟩
        exact nomatch stopped.symm.trans running
  report := by
    intro steps bench event stage
    cases stage with
    | unclosed here noClosing => exact .unclosed { here with } noClosing
    | closed noClosing here closes rest agrees =>
      exact .closed noClosing here closes rest { agrees with }
  withMaxTicks := by
    intro steps bench limit stage
    cases stage with
    | unclosed here noClosing => exact .unclosed { here with } noClosing
    | closed noClosing here closes rest agrees =>
      exact .closed noClosing here closes rest { agrees with }
  withCoveragePath := by
    intro steps bench path stage
    cases stage with
    | unclosed here noClosing => exact .unclosed { here with } noClosing
    | closed noClosing here closes rest agrees =>
      exact .closed noClosing here closes rest { agrees with }

/-- A new loop is at some stage at the end of every trail. -/
theorem Trail.stage {build : Build} {context : Context} {model : σ} {host : Host}
    {medium : Medium} {calls : List (Call × Answer)} {steps : List (Bench σ)} {last : Bench σ}
    (trail : Trail (start build context model host medium) calls steps last) :
    Stage (start build context model host medium) steps last := by
  have new : Unclosed (start build context model host medium)
      (start build context model host medium) := ⟨rfl, rfl, rfl, rfl, rfl, rfl, rfl, rfl⟩
  rw [← List.nil_append steps]
  exact trail.preserves (stage_invariant _) (.unclosed new (List.forall_mem_nil _))

/-- The step writes its coverage file: it opens the file, the file takes all that writing the
database puts into it, which is `content`, and that makes `files` of the file tree. -/
structure Writes (bench : Bench σ) (content : ByteArray) (files : FileTree) : Prop where
  opens : bench.Opens
  files_eq : bench.step.2.host.files = files
  taken : ∃ db place sink, bench.loop.context.coverage = some db ∧
    bench.host.files.writablePlace bench.loop.coveragePath = .ok place ∧
    db.writeTo (bench.medium.sinkFor db.text) = (true, sink) ∧
    content = sink.taken.toByteArray ∧ files = bench.host.files.insert place (.file content)

/-- The steps that write the coverage file are the closing steps with coverage whose model agrees to
close and whose database is stored. -/
lemma writes_iff {bench : Bench σ} {content : ByteArray} {files : FileTree} :
    bench.Writes content files ↔
      bench.Closes ∧ (DeviceModel.finalize bench.loop.model).1 = .ok () ∧
        bench.loop.build.coverage = true ∧
        ∃ db, bench.loop.context.coverage = some db ∧ content = db.text.toUTF8 ∧
          Storing bench.medium bench.loop.coveragePath db bench.host.files (.ok ()) files := by
  constructor
  · rintro ⟨opens, -, db, place, sink, enabled, opened, fits, rfl, rfl⟩
    obtain ⟨closes, agreed, compiled, -⟩ := opens_iff.mp opens
    exact ⟨closes, agreed, compiled, db, enabled, taken_eq_text fits, .whole opened fits⟩
  · rintro ⟨closes, agreed, compiled, db, enabled, rfl, storing⟩
    refine ⟨opens_of_covered closes agreed compiled enabled, ?_, ?_⟩
    · rw [step_of_stored closes agreed compiled enabled storing]
      rfl
    · cases storing with
      | whole opened fits =>
        rw [← taken_eq_text fits]
        exact ⟨db, _, _, enabled, opened, fits, rfl, rfl⟩

/-- What a step writes to its coverage file is read back from it. -/
lemma Writes.readBytes_eq {bench : Bench σ} {content : ByteArray} {files : FileTree}
    (writes : bench.Writes content files) :
    files.readBytes bench.loop.coveragePath = .ok content := by
  obtain ⟨-, place, -, -, opened, -, -, rfl⟩ := writes.taken
  exact FileTree.readBytes_insert opened content

/-- A step that writes its coverage file ends well, and leaves the run finished and the points of
the database in the statistics. -/
lemma Writes.after {bench : Bench σ} {content : ByteArray} {files : FileTree}
    (writes : bench.Writes content files) :
    bench.step.1 = .ok .stopped ∧ bench.step.2.loop.stats.finished = true ∧
      ∃ db sink, bench.step.2.loop.context.coverage = some db ∧
        db.writeTo (bench.medium.sinkFor db.text) = (true, sink) ∧
        content = sink.taken.toByteArray ∧
        bench.step.2.loop.stats.coveragePoints = db.size ∧
        bench.step.2.loop.stats.coverageCovered = db.covered := by
  obtain ⟨closes, agreed, compiled, db, enabled, rfl, storing⟩ := writes_iff.mp writes
  rw [step_of_stored closes agreed compiled enabled storing]
  cases storing with
  | whole opened fits =>
    exact ⟨rfl, rfl, db, _, enabled, fits, (taken_eq_text fits).symm, rfl, rfl⟩

/-- A closing step that does not write its coverage file puts no points into the statistics. -/
lemma Closes.of_not_writes {bench : Bench σ} (closes : bench.Closes)
    (noFile : ∀ content files, ¬bench.Writes content files) :
    bench.step.2.loop.stats.coveragePoints = bench.loop.stats.coveragePoints ∧
      bench.step.2.loop.stats.coverageCovered = bench.loop.stats.coverageCovered := by
  have outcome := closing_step closes
  generalize bench.step = after at outcome ⊢
  cases outcome with
  | refused | uncovered | unstored => exact ⟨rfl, rfl⟩
  | stored agreed compiled enabled storing =>
    exact absurd (writes_iff.mpr ⟨closes, agreed, compiled, _, enabled, rfl, storing⟩) (noFile _ _)

/-- After a closing step the run is finished exactly if the model was finalized with success and the
coverage file, if there is coverage, was written. -/
lemma Closes.finished_iff {bench : Bench σ} (closes : bench.Closes)
    (fresh : bench.loop.stats.finished = false) :
    bench.step.2.loop.stats.finished = true ↔
      (DeviceModel.finalize bench.loop.model).1 = .ok () ∧
        (bench.loop.build.coverage = false ∨ bench.loop.context.coverage = none ∨
          ∃ content files, bench.Writes content files) := by
  have outcome := closing_step closes
  generalize bench.step = after at outcome ⊢
  cases outcome with
  | refused refused =>
    refine ⟨fun finished => ?_, fun ⟨agreed, _⟩ => nomatch refused.symm.trans agreed⟩
    exact absurd (fresh.symm.trans finished) Bool.noConfusion
  | uncovered agreed uncovered =>
    refine ⟨fun _ => ⟨agreed, ?_⟩, fun _ => rfl⟩
    exact uncovered.imp_right .inl
  | unstored agreed compiled enabled failed =>
    refine ⟨fun finished => absurd (fresh.symm.trans finished) Bool.noConfusion, ?_⟩
    rintro ⟨-, without | disabled | ⟨content, files, writes⟩⟩
    · exact absurd (without.symm.trans compiled) Bool.noConfusion
    · exact nomatch disabled.symm.trans enabled
    · obtain ⟨-, -, -, db, enabled', -, storing⟩ := writes_iff.mp writes
      cases enabled.symm.trans enabled'
      exact nomatch (failed.unique storing).1
  | stored agreed compiled enabled storing =>
    have writes := writes_iff.mpr ⟨closes, agreed, compiled, _, enabled, rfl, storing⟩
    exact ⟨fun _ => ⟨agreed, .inr (.inr ⟨_, _, writes⟩)⟩, fun _ => rfl⟩

/-- A loop agrees with the place at which it was closed, one step later. -/
lemma Stage.agrees {first last step : Bench σ} {steps : List (Bench σ)}
    (stage : Stage first steps last) (mem : step ∈ steps) (closes : step.Closes) :
    Unclosed first step ∧ Agrees last step.step.2 := by
  cases stage with
  | unclosed _ noClosing => exact absurd closes (noClosing step mem)
  | closed noClosing here _ rest agrees =>
    rcases List.mem_append.mp mem with mem | mem
    · exact absurd closes (noClosing step mem)
    · rcases List.mem_cons.mp mem with rfl | mem
      · exact ⟨here, agrees⟩
      · exact absurd closes (rest step mem)

/-- Without a place at which it was closed a loop is unclosed. -/
lemma Stage.exists_closes {first last : Bench σ} {steps : List (Bench σ)}
    (stage : Stage first steps last) :
    Unclosed first last ∧ (∀ step ∈ steps, ¬step.Closes) ∨ ∃ step ∈ steps, step.Closes := by
  cases stage with
  | unclosed here noClosing => exact .inl ⟨here, noClosing⟩
  | closed _ _ closes => exact .inr ⟨_, by simp, closes⟩

/-- The places of a stage at which the loop closes are all the same place. -/
lemma Stage.pairwise {first last : Bench σ} {steps : List (Bench σ)}
    (stage : Stage first steps last) :
    steps.Pairwise fun one other => ¬one.Closes ∨ ¬other.Closes := by
  cases stage with
  | unclosed _ noClosing =>
    exact List.pairwise_of_forall_mem_list fun one mem _ _ => .inl (noClosing one mem)
  | closed noClosing _ _ rest =>
    refine List.pairwise_append.mpr ⟨?_, ?_, fun one mem _ _ => .inl (noClosing one mem)⟩
    · exact List.pairwise_of_forall_mem_list fun one mem _ _ => .inl (noClosing one mem)
    · refine List.pairwise_cons.mpr ⟨fun other mem => .inr (rest other mem), ?_⟩
      exact List.pairwise_of_forall_mem_list fun one mem _ _ => .inl (rest one mem)

end Stages

section Account

variable {σ : Type} [DeviceModel σ]

/-- The step finalizes the model with this result. -/
def Finalizes (bench : Bench (Recorded σ)) (result : Except SimError Unit) : Prop :=
  bench.step.2.loop.model.journal = bench.loop.model.journal ++ [.finalize result]

/-- It is the closing step that finalizes the model. -/
lemma finalizes_iff {bench : Bench (Recorded σ)} {result : Except SimError Unit} :
    bench.Finalizes result ↔
      bench.Closes ∧ (DeviceModel.finalize bench.loop.model).1 = result := by
  have longer (journal : Journal) (call : ModelCall) : journal ≠ journal ++ [call] := by simp
  unfold Finalizes
  have turn := turn_step bench
  generalize bench.step = outcome at turn ⊢
  cases turn with
  | rest stopped =>
    refine ⟨fun same => absurd same (longer _ _), fun ⟨⟨running, _⟩, _⟩ => ?_⟩
    exact nomatch stopped.symm.trans running
  | refuse running clear =>
    refine ⟨fun same => absurd same (longer _ _), fun ⟨⟨_, asked⟩, _⟩ => ?_⟩
    exact absurd (asked.symm.trans clear) Bool.noConfusion
  | close running asked =>
    rw [journal_closed]
    constructor
    · intro same
      have last := List.append_cancel_left same
      cases last
      exact ⟨⟨running, asked⟩, rfl⟩
    · rintro ⟨-, rfl⟩
      rfl
  | tick running clear =>
    rw [journal_ticked]
    constructor
    · intro same
      exact nomatch List.append_cancel_left same
    · rintro ⟨⟨_, asked⟩, _⟩
      exact absurd (asked.symm.trans clear) Bool.noConfusion

/-- What the steps of a session do about the coverage file, and what has come of it at its end.  The
loop was built in `build`, and began with `host` and `medium`. -/
structure CoverageAccount (build : Build) (host : Host) (medium : Medium)
    (steps : List (Bench (Recorded σ))) (last : Bench (Recorded σ)) : Prop where
  /-- Of any two steps one leaves the files alone. -/
  once : steps.Pairwise fun one other => one.LeavesFiles ∨ other.LeavesFiles
  /-- In the whole session the coverage file is opened once, in one of the steps and at the path set
  then, or it is not opened. -/
  openings : last.host.openings = host.openings ∨
    ∃ step ∈ steps, step.Opens ∧ last.host.openings = host.openings ++ [step.loop.coveragePath]
  /-- A step that does not leave the files alone opens the coverage file, once, and finalizes the
  model with success, in a build and a context with coverage. -/
  opening : ∀ step ∈ steps, step.LeavesFiles ∨
    step.Opens ∧ step.Finalizes (.ok ()) ∧ build.coverage = true ∧
      ∃ db, step.loop.context.coverage = some db
  /-- A failure of the finalization is the failure of its step, and no file is touched. -/
  refused : ∀ step ∈ steps, ∀ cause, step.Finalizes (.error cause) →
    step.step.1 = .error cause ∧ step.LeavesFiles
  /-- Where the coverage file is opened, the files are what storing the database leaves, and a
  failure to store it is the failure of the step, which names the path. -/
  stored : ∀ step ∈ steps, step.Opens → ∀ db, step.loop.context.coverage = some db →
    ∃ result, Storing medium step.loop.coveragePath db host.files result last.host.files ∧
      step.step.1 =
        (result.mapError (.coverageWrite step.loop.coveragePath)).map fun _ => .stopped
  /-- Once the coverage file was written, it holds what writing the database puts out, which is the
  text of the database, and the statistics count the points of the database. -/
  written : ∀ step ∈ steps, ∀ content written, step.Writes content written →
    last.host.files = written ∧ written.readBytes step.loop.coveragePath = .ok content ∧
      ∃ db sink, last.loop.context.coverage = some db ∧
        db.writeTo (medium.sinkFor db.text) = (true, sink) ∧
        content = sink.taken.toByteArray ∧ content = db.text.toUTF8 ∧
        last.loop.stats.coveragePoints = db.size ∧ last.loop.stats.coverageCovered = db.covered
  /-- Unless the coverage file was written, the statistics count no points. -/
  unwritten : (∀ step ∈ steps, ∀ content written, ¬step.Writes content written) →
    last.loop.stats.coveragePoints = 0 ∧ last.loop.stats.coverageCovered = 0
  /-- Unless the coverage file was opened, all files are as they were. -/
  unopened : (∀ step ∈ steps, ¬step.Opens) → last.host.files = host.files
  /-- The statistics say that the run is finished exactly if the model was finalized with success
  and the coverage file, if there is coverage, was written. -/
  finished_iff : last.loop.stats.finished = true ↔
    ∃ step ∈ steps, step.Finalizes (.ok ()) ∧
      (build.coverage = false ∨ step.loop.context.coverage = none ∨
        ∃ content written, step.Writes content written)

/-- A step that does not leave the files alone opens the coverage file, after the model was
finalized with success. -/
lemma leavesFiles_or_opens (bench : Bench (Recorded σ)) :
    bench.LeavesFiles ∨
      bench.Opens ∧ bench.Finalizes (.ok ()) ∧ bench.loop.build.coverage = true ∧
        ∃ db, bench.loop.context.coverage = some db := by
  by_cases closes : bench.Closes
  · have outcome := closing_step closes
    generalize bench.step = after at outcome
    cases outcome with
    | refused refused => exact .inl (leavesFiles_of_refused closes refused)
    | uncovered agreed uncovered => exact .inl (leavesFiles_of_uncovered closes agreed uncovered)
    | unstored agreed compiled enabled | stored agreed compiled enabled =>
      exact .inr ⟨opens_of_covered closes agreed compiled enabled,
        finalizes_iff.mpr ⟨closes, agreed⟩, compiled, _, enabled⟩
  · exact .inl (leavesFiles_of_not_closes closes)

/-- A step whose finalization fails ends with that failure and leaves the files alone. -/
lemma Finalizes.of_error {bench : Bench (Recorded σ)} {cause : SimError}
    (finalizes : bench.Finalizes (.error cause)) :
    bench.step.1 = .error cause ∧ bench.LeavesFiles := by
  obtain ⟨closes, refused⟩ := finalizes_iff.mp finalizes
  refine ⟨?_, leavesFiles_of_refused closes refused⟩
  have outcome := closing_step closes
  generalize bench.step = after at outcome ⊢
  cases outcome with
  | refused refused' =>
    cases refused.symm.trans refused'
    rfl
  | uncovered agreed | unstored agreed | stored agreed => exact nomatch refused.symm.trans agreed

/-- Every stage has its account. -/
lemma Stage.account {first last : Bench (Recorded σ)} {steps : List (Bench (Recorded σ))}
    (stage : Stage first steps last) :
    CoverageAccount first.loop.build first.host first.medium steps last where
  once := stage.pairwise.imp fun noClosing =>
    noClosing.imp leavesFiles_of_not_closes leavesFiles_of_not_closes
  openings := by
    rcases stage.exists_closes with ⟨here, -⟩ | ⟨step, mem, closes⟩
    · exact .inl here.openings_eq
    · obtain ⟨here, agrees⟩ := stage.agrees mem closes
      rw [agrees.openings_eq, ← here.openings_eq]
      rcases step.leavesFiles_or_opens with leaves | ⟨opens, -⟩
      · exact .inl leaves.openings_eq
      · exact .inr ⟨step, mem, opens, opens⟩
  opening := by
    intro step mem
    refine step.leavesFiles_or_opens.imp_right ?_
    rintro ⟨opens, finalizes, compiled, enabled⟩
    obtain ⟨here, -⟩ := stage.agrees mem (finalizes_iff.mp finalizes).1
    exact ⟨opens, finalizes, here.build_eq ▸ compiled, enabled⟩
  refused _ _ _ finalizes := finalizes.of_error
  stored := by
    intro step mem opens db enabled
    obtain ⟨here, agrees⟩ := stage.agrees mem (opens_iff.mp opens).1
    rw [← here.medium_eq, ← here.files_eq, agrees.files_eq]
    exact opens.exists_storing enabled
  written := by
    intro step mem content files writes
    obtain ⟨here, agrees⟩ := stage.agrees mem (writes_iff.mp writes).1
    obtain ⟨-, -, db, sink, enabled, fits, content_eq, points, covered⟩ := writes.after
    rw [agrees.files_eq, agrees.context_eq, agrees.stats_eq, ← here.medium_eq]
    exact ⟨writes.files_eq, writes.readBytes_eq, db, sink, enabled, fits, content_eq,
      content_eq.trans (taken_eq_text fits), points, covered⟩
  unwritten := by
    intro noFile
    rcases stage.exists_closes with ⟨here, -⟩ | ⟨step, mem, closes⟩
    · exact ⟨here.coveragePoints_eq, here.coverageCovered_eq⟩
    · obtain ⟨here, agrees⟩ := stage.agrees mem closes
      obtain ⟨points, covered⟩ := closes.of_not_writes (noFile step mem)
      rw [agrees.stats_eq]
      exact ⟨points.trans here.coveragePoints_eq, covered.trans here.coverageCovered_eq⟩
  unopened := by
    intro noOpening
    rcases stage.exists_closes with ⟨here, -⟩ | ⟨step, mem, closes⟩
    · exact here.files_eq
    · obtain ⟨here, agrees⟩ := stage.agrees mem closes
      have leaves := step.leavesFiles_or_opens.resolve_right fun ⟨opens, _⟩ =>
        noOpening step mem opens
      exact agrees.files_eq.trans (leaves.files_eq.trans here.files_eq)
  finished_iff := by
    constructor
    · intro finished
      rcases stage.exists_closes with ⟨here, -⟩ | ⟨step, mem, closes⟩
      · exact absurd (here.finished_eq.symm.trans finished) Bool.noConfusion
      · obtain ⟨here, agrees⟩ := stage.agrees mem closes
        rw [agrees.stats_eq, closes.finished_iff here.finished_eq, here.build_eq] at finished
        exact ⟨step, mem, finalizes_iff.mpr ⟨closes, finished.1⟩, finished.2⟩
    · rintro ⟨step, mem, finalizes, covered⟩
      obtain ⟨closes, agreed⟩ := finalizes_iff.mp finalizes
      obtain ⟨here, agrees⟩ := stage.agrees mem closes
      rw [agrees.stats_eq, closes.finished_iff here.finished_eq, here.build_eq]
      exact ⟨agreed, covered⟩

end Account

variable {σ : Type} [DeviceModel σ]

/-- Calls on a stopped loop change nothing but its settings and the log. -/
lemma Session.agrees_of_stopped {bench after : Bench σ} {calls : List (Call × Answer)}
    (session : Session bench calls after) (stopped : bench.loop.state = .stopped) :
    Agrees after bench := by
  have kept : Invariant fun other => Agrees other bench :=
    { step := by
        intro other agrees
        rw [step_of_stopped (agrees.state_eq.trans stopped)]
        exact agrees
      report := fun _ _ agrees => { agrees with }
      withMaxTicks := fun _ _ agrees => { agrees with }
      withCoveragePath := fun _ _ agrees => { agrees with } }
  exact session.preserves kept (.refl bench)

/-- Whatever the model does and whatever calls are made, the coverage file is opened at most once,
in the step that finalizes the model with success, if there is coverage, at the path set then.
Once it was written it holds the text of the database, the statistics count its points, and neither
changes any more; else the statistics count no points.  A file that takes only a part of the text
keeps that part, and one that cannot be opened is left as it was.  A run is finished exactly if its
model was finalized with success and its coverage, if any, was written.  All failures of a shutdown
are answered as they are, those of the coverage file naming the path. -/
theorem session_coverage {build : Build} {context : Context} {model : σ} {host : Host}
    {medium : Medium} {calls : List (Call × Answer)} {bench : Bench σ}
    (session : Session (start build context model host medium) calls bench) :
    (∃ (steps : List (Bench (Recorded σ))) (last : Bench (Recorded σ)),
      Trail (start build context (.blank model) host medium) calls steps last ∧
        last.mapModel Recorded.model = bench ∧
        CoverageAccount build host medium steps last) ∧
    (bench.loop.state = .stopped → ∀ (more : List (Call × Answer)) (later : Bench σ),
      Session bench more later → Agrees later bench) := by
  refine ⟨?_, fun stopped _ _ rest => rest.agrees_of_stopped stopped⟩
  obtain ⟨_, last, lifted, same, -⟩ := session.exists_journal
  obtain ⟨steps, trail⟩ := lifted.exists_trail
  exact ⟨steps, last, trail, same, trail.stage.account⟩

/-- The loop on that model after its tick, with the coverage file moved. -/
def moved (medium : Medium) : Bench Scripted :=
  let ticked :=
    (start {} { Context.plain with coverage := some default } .touching {} medium).step.2
  { ticked with loop := ticked.loop.withCoveragePath "cover" }

/-- A file that takes no more than five bytes of the text keeps them, and the step fails. -/
example :
    (moved { room := some 5 }).step.1 = .error (.coverageWrite "cover" .noSpace) ∧
      (moved { room := some 5 }).step.2.host.files.readBytes "cover" = .ok "# rtl".toUTF8 := by
  decide +kernel

/-- The calls that lead to the end of the closing step. -/
def touchedCalls : List (Call × Answer) :=
  [(.step, .stepped (.ok .running)), (.withCoveragePath "cover", .configured),
    (.step, .stepped (.ok .stopped))]

/-- The loop counts one point after its closing step, so some file holds the text of its database,
and no call changes that. -/
theorem session_coverage_touched :
    Session (start {} { Context.plain with coverage := some default } .touching {}) touchedCalls
        (moved {}).step.2 ∧
      (∃ path db, (moved {}).step.2.loop.context.coverage = some db ∧
        (moved {}).step.2.host.files.readBytes path = .ok db.text.toUTF8 ∧ db.size = 1) ∧
      ∀ more later, Session (moved {}).step.2 more later →
        later.host.files = (moved {}).step.2.host.files := by
  have ended : (moved {}).step.1 = .ok .stopped := by decide +kernel
  have closing : Makes (moved {}) .step (.stepped (.ok .stopped)) (moved {}).step.2 := ended ▸ .step
  have session : Session (start {} { Context.plain with coverage := some default } .touching {})
      touchedCalls (moved {}).step.2 :=
    .cons .step (.cons (.withCoveragePath "cover") (.cons closing (.nil _)))
  have points : (moved {}).step.2.loop.stats.coveragePoints = 1 := by decide +kernel
  have stopped : (moved {}).step.2.loop.state = .stopped := state_eq_of_stopped ended
  obtain ⟨⟨steps, last, -, same, account⟩, kept⟩ := session_coverage session
  refine ⟨session, ?_, fun more later rest => (kept stopped more later rest).files_eq⟩
  rw [← same] at points ⊢
  obtain ⟨step, mem, content, files, writes⟩ :
      ∃ step ∈ steps, ∃ content files, step.Writes content files := by
    by_contra noFile
    push Not at noFile
    obtain ⟨none, -⟩ := account.unwritten noFile
    exact absurd (none.symm.trans points) (by decide)
  obtain ⟨rfl, holds, db, sink, enabled, -, -, rfl, size, -⟩ :=
    account.written step mem content files writes
  exact ⟨_, db, enabled, holds, size.symm.trans points⟩

end Bench

end CycleSim
