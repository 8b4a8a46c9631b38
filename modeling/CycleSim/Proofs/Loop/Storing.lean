import CycleSim.Proofs.Coverage.Sink
import CycleSim.Proofs.FileTree.Writing
import CycleSim.Proofs.Loop.Step

/-!
# Storing the coverage file

The second half of a shutdown stores the database, and it has two places to fail: the file may
refuse to be opened, and the medium may be full before the whole text is written.  `Storing` lists
the outcomes with the files that each leaves; there are no others (`exists_storing`), and which of
them comes about depends on nothing of the host but its files (`Storing.store_eq`).  A shutdown
whose model agrees to close ends as storing ends.
-/

namespace CycleSim

/-! ### Outcomes of storing -/

/-- What storing a database in the file at a path comes to, and the files that it leaves. -/
inductive Storing (medium : Medium) (path : String) (db : Coverage.Database) (files : FileTree) :
    Except FileError Unit → FileTree → Prop where
  /-- The file cannot be opened. -/
  | refused {cause : FileError} (refused : files.writablePlace path = .error cause) :
      Storing medium path db files (.error cause) files
  /-- The file is opened and takes a part of the text. -/
  | cut {place : Location} {sink : Coverage.Sink} (opened : files.writablePlace path = .ok place)
      (full : db.writeTo (medium.sinkFor db.text) = (false, sink)) :
      Storing medium path db files (.error medium.fault)
        (files.insert place (.file sink.taken.toByteArray))
  /-- The file is opened and takes the whole text. -/
  | whole {place : Location} {sink : Coverage.Sink} (opened : files.writablePlace path = .ok place)
      (fits : db.writeTo (medium.sinkFor db.text) = (true, sink)) :
      Storing medium path db files (.ok ()) (files.insert place (.file sink.taken.toByteArray))

variable {medium : Medium} {path : String} {db : Coverage.Database} {files after after' : FileTree}
  {result result' : Except FileError Unit} {cause : FileError}

/-- Storing comes to something. -/
lemma exists_storing (medium : Medium) (path : String) (db : Coverage.Database)
    (files : FileTree) : ∃ result after, Storing medium path db files result after := by
  cases opened : files.writablePlace path with
  | error cause => exact ⟨_, _, .refused opened⟩
  | ok place =>
    rcases taken : db.writeTo (medium.sinkFor db.text) with ⟨_ | _, sink⟩
    · exact ⟨_, _, .cut opened taken⟩
    · exact ⟨_, _, .whole opened taken⟩

/-- Storing leaves the files and answers as its outcome says, and notes the opening. -/
lemma Storing.store_eq {host : Host} (storing : Storing medium path db host.files result after) :
    host.store medium path db =
      (result, { host with files := after, openings := host.openings ++ [path] }) := by
  cases storing with
  | refused refused => simp [Host.store, Host.create, FileTree.create_of_refused refused]
  | cut opened full =>
    simp [Host.store, Host.create, FileTree.create_of_writablePlace opened, full,
      FileTree.insert_insert]
  | whole opened fits =>
    simp [Host.store, Host.create, FileTree.create_of_writablePlace opened, fits,
      FileTree.insert_insert]

/-- Storing comes to one thing only. -/
lemma Storing.unique (storing : Storing medium path db files result after)
    (storing' : Storing medium path db files result' after') :
    result = result' ∧ after = after' := by
  let host : Host := { files }
  have one : host.store medium path db = _ := storing.store_eq
  have other : host.store medium path db = _ := storing'.store_eq
  have same := one.symm.trans other
  exact ⟨congrArg Prod.fst same, congrArg (·.2.files) same⟩

/-- What a file takes if it takes all is the text. -/
lemma taken_eq_text {sink : Coverage.Sink}
    (fits : db.writeTo (medium.sinkFor db.text) = (true, sink)) :
    sink.taken.toByteArray = db.text.toUTF8 := by
  rw [Coverage.Database.writeTo_eq] at fits
  obtain ⟨room, rfl⟩ := Prod.mk.inj fits
  rw [List.take_of_length_le]
  · exact ByteArray.toByteArray_toList _
  · rw [ByteArray.length_toList]
    exact of_decide_eq_true room

/-- Storing that succeeds writes the text of the database. -/
lemma Storing.write_eq (storing : Storing medium path db files (.ok ()) after) :
    files.write path db.text.toUTF8 = .ok after := by
  cases storing with
  | whole opened fits => rw [FileTree.write_of_writablePlace opened, taken_eq_text fits]

/-- A medium without a bound takes every text. -/
lemma Medium.exists_fits (unbounded : medium.room = none) (db : Coverage.Database) :
    ∃ sink, db.writeTo (medium.sinkFor db.text) = (true, sink) := by
  have room : (medium.sinkFor db.text).room = db.text.toUTF8.size := by
    rw [sinkFor, unbounded]
    rfl
  rw [Coverage.Database.writeTo_eq, decide_eq_true (Nat.le_of_eq room.symm)]
  exact ⟨_, rfl⟩

/-- On a medium without a bound a file that can be opened is stored. -/
lemma exists_whole (unbounded : medium.room = none) {place : Location}
    (opened : files.writablePlace path = .ok place) (db : Coverage.Database) :
    ∃ after, Storing medium path db files (.ok ()) after := by
  obtain ⟨sink, fits⟩ := Medium.exists_fits unbounded db
  exact ⟨_, .whole opened fits⟩

/-- On a medium without a bound storing comes to what opening the file comes to. -/
lemma Storing.result_eq (unbounded : medium.room = none)
    (storing : Storing medium path db files result after) :
    result = (files.writablePlace path).map fun _ => () := by
  cases storing with
  | refused refused => rw [refused]; rfl
  | cut opened full =>
    obtain ⟨sink, fits⟩ := Medium.exists_fits unbounded db
    exact nomatch fits.symm.trans full
  | whole opened fits => rw [opened]; rfl

/-- On a medium without a bound storing that fails leaves the files as they were. -/
lemma Storing.files_eq (unbounded : medium.room = none)
    (failed : Storing medium path db files (.error cause) after) : after = files := by
  cases failed with
  | refused refused => rfl
  | cut opened full =>
    obtain ⟨sink, fits⟩ := Medium.exists_fits unbounded db
    exact nomatch fits.symm.trans full

/-! ### Shutdowns -/

namespace Bench

variable {σ : Type} {bench : Bench σ}

/-- The host once the coverage file was opened, or was refused to be, with `files` as the file
tree. -/
def stored (files : FileTree) (bench : Bench σ) : Bench σ :=
  { bench with
    host := { bench.host with
      files
      openings := bench.host.openings ++ [bench.loop.coveragePath] } }

/-- The loop and the host once the points of a database are reported. -/
def reported (db : Coverage.Database) (bench : Bench σ) : Bench σ :=
  { bench with
    loop := { bench.loop with
      stats := { bench.loop.stats with
        coveragePoints := db.size, coverageCovered := db.covered } }
    host := bench.host.report
      (.coverageWritten bench.loop.coveragePath db.size db.covered) }

variable [DeviceModel σ]

/-- A shutdown whose model refuses to close ends with that failure. -/
lemma shutdown_of_refused {cause : SimError}
    (refused : (DeviceModel.finalize bench.loop.model).1 = .error cause) :
    bench.shutdown = (.error cause, bench.finalized) := by
  rw [shutdown_eq, refused]

/-- A shutdown without coverage ends well once the model is finalized. -/
lemma shutdown_of_uncovered (agreed : (DeviceModel.finalize bench.loop.model).1 = .ok ())
    (uncovered : bench.loop.build.coverage = false ∨ bench.loop.context.coverage = none) :
    bench.shutdown = (.ok (), bench.finalized.conclude) := by
  have skipped : bench.finalized.writeCoverage = (.ok (), bench.finalized) := by
    unfold writeCoverage
    split
    · rename_i compiled enabled
      rcases uncovered with without | disabled
      · exact absurd (without.symm.trans compiled) Bool.noConfusion
      · exact absurd (disabled.symm.trans enabled) nofun
    · rfl
  rw [shutdown_eq, agreed, skipped]

/-- A shutdown that fails to store its database ends with that failure, naming the path. -/
lemma shutdown_of_unstored (agreed : (DeviceModel.finalize bench.loop.model).1 = .ok ())
    (compiled : bench.loop.build.coverage = true) (enabled : bench.loop.context.coverage = some db)
    (failed : Storing bench.medium bench.loop.coveragePath db bench.host.files (.error cause)
      files) :
    bench.shutdown =
      (.error (.coverageWrite bench.loop.coveragePath cause), bench.finalized.stored files) := by
  have compiled' : bench.finalized.loop.build.coverage = true := compiled
  have enabled' : bench.finalized.loop.context.coverage = some db := enabled
  have failed' : bench.finalized.host.store bench.finalized.medium
      bench.finalized.loop.coveragePath db = _ := failed.store_eq
  rw [shutdown_eq, agreed]
  simp only [writeCoverage, compiled', enabled', failed']
  rfl

/-- A shutdown that stores its database ends well and reports the points. -/
lemma shutdown_of_stored (agreed : (DeviceModel.finalize bench.loop.model).1 = .ok ())
    (compiled : bench.loop.build.coverage = true) (enabled : bench.loop.context.coverage = some db)
    (storing : Storing bench.medium bench.loop.coveragePath db bench.host.files (.ok ()) files) :
    bench.shutdown = (.ok (), ((bench.finalized.stored files).reported db).conclude) := by
  have compiled' : bench.finalized.loop.build.coverage = true := compiled
  have enabled' : bench.finalized.loop.context.coverage = some db := enabled
  have stored' : bench.finalized.host.store bench.finalized.medium
      bench.finalized.loop.coveragePath db = _ := storing.store_eq
  rw [shutdown_eq, agreed]
  simp only [writeCoverage, compiled', enabled', stored']
  rfl

/-- A shutdown can write its coverage file in full, if it has one to write. -/
def CoverageWritable (bench : Bench σ) : Prop :=
  bench.loop.build.coverage = true → bench.loop.context.coverage.isSome = true →
    bench.medium.room = none ∧
      ∃ place, bench.host.files.writablePlace bench.loop.coveragePath = .ok place

/-- A shutdown succeeds if the model agrees to close and coverage can be written. -/
lemma shutdown_ok (agreed : (DeviceModel.finalize bench.loop.model).1 = .ok ())
    (writable : bench.CoverageWritable) : bench.shutdown.1 = .ok () := by
  by_cases uncovered : bench.loop.build.coverage = false ∨ bench.loop.context.coverage = none
  · rw [shutdown_of_uncovered agreed uncovered]
  · obtain ⟨compiled, enabled⟩ := not_or.mp uncovered
    rw [Bool.not_eq_false] at compiled
    obtain ⟨db, enabled⟩ := Option.ne_none_iff_exists'.mp enabled
    obtain ⟨unbounded, place, opened⟩ := writable compiled (by rw [enabled]; rfl)
    obtain ⟨files, storing⟩ := exists_whole unbounded opened db
    rw [shutdown_of_stored agreed compiled enabled storing]

end Bench

end CycleSim
