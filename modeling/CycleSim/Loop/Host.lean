import CycleSim.Coverage.Text
import CycleSim.FileTree.Basic
import CycleSim.Log.Basic

/-!
# The host of a loop

A loop writes its coverage file to a file tree and reports to a log.  The host keeps both, and notes
every file that the loop opens for writing.

Storing a database has two stages, and each can fail.  A file that cannot be opened leaves the tree
as it was.  A file that was opened is empty, and takes the text piece by piece: as much of it as the
`Medium` takes, which stays in the file although the writing fails.
-/

namespace CycleSim

/-- What coverage files are written on. -/
structure Medium where
  /-- The number of bytes that a file takes, if there is a bound. -/
  room : Option Nat := none
  /-- The failure of a write for which there is no room left. -/
  fault : FileError := .noSpace

/-- An empty file on the medium, as a destination for a text. -/
def Medium.sinkFor (medium : Medium) (text : String) : Coverage.Sink where
  room := medium.room.getD text.utf8ByteSize

/-- The world around a loop. -/
structure Host where
  files : FileTree := {}
  log : Log := {}
  /-- The paths at which files were opened for writing, in this order, also those refused. -/
  openings : List String := []

namespace Host

/-- The host with an event in its log. -/
def report (host : Host) (event : LogEvent) : Host :=
  { host with log := host.log.report event }

/-- Opens a file for writing, which creates it or empties it; the answer is its place. -/
def create (host : Host) (path : String) : Except FileError Location × Host :=
  let host := { host with openings := host.openings ++ [path] }
  match host.files.create path with
  | .error cause => (.error cause, host)
  | .ok (place, files) => (.ok place, { host with files })

/-- Stores a database in a file, replacing what the file held.  A file that was opened keeps what
the medium takes of the text, whether or not that is all of it. -/
def store (host : Host) (medium : Medium) (path : String) (db : Coverage.Database) :
    Except FileError Unit × Host :=
  match host.create path with
  | (.error cause, host) => (.error cause, host)
  | (.ok place, host) =>
    let (complete, sink) := db.writeTo (medium.sinkFor db.text)
    let files := host.files.insert place (.file sink.taken.toByteArray)
    (if complete then .ok () else .error medium.fault, { host with files })

end Host

end CycleSim
