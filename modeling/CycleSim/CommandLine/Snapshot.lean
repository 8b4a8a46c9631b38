import CycleSim.CommandLine.Run

/-!
# The host's files

A call works on a `FileTree`.  `Snapshot.take` copies the part of the host's file system that the
call may look at, which is whatever stands along its paths, and `Snapshot.store` writes back what
the call has changed.
-/

namespace CycleSim.Snapshot

/-- What stands at a path of the host. -/
def entry? (path : String) : IO (Option Entry) := do
  try
    return some (.file (← IO.FS.readBinFile path))
  catch
    | .inappropriateType .. => return some .directory
    | _ => return none

/-- The location that names lead to, if every one of them is a directory or the last. -/
def locate (start : Location) (names : List String) : Location :=
  names.foldl (fun place name =>
    if name = "." then place else if name = ".." then place.dropLast else place ++ [name]) start

/-- The path of a location on the host. -/
def pathOf (place : Location) : String :=
  "/" ++ "/".intercalate place

/-- Adds what stands along the names of a path. -/
def add (tree : FileTree) (text : String) : IO FileTree := do
  let path := Path.ofString text
  let prefixes := (List.range path.names.length).map fun n => path.names.take (n + 1)
  prefixes.foldlM (fun tree names => do
    let place := locate (tree.start path) names
    match tree.entry? place.dropLast, ← entry? (pathOf place) with
    | some .directory, some entry => return tree.insert place entry
    | _, _ => return tree) tree

/-- The tree of a working directory alone. -/
def ofWorkingDirectory (path : String) : FileTree :=
  let names := (Path.ofString path).names
  { entries := (List.range names.length).map fun n => (names.take (n + 1), .directory)
    workingDirectory := names }

/-- The part of the host's files that a call may look at. -/
def take (workingDirectory : String) (options : Options) : IO FileTree := do
  let tree ← options.config.toList.foldlM add (ofWorkingDirectory workingDirectory)
  match options.configure tree with
  | .error _ => return tree
  | .ok config =>
    let paths := [config.paths.logDir, config.coveragePath] ++ config.paths.statsFile.toList
    paths.foldlM add tree

/-- Writes back the entries of a tree that are new or changed, directories before what they
hold. -/
def store (before after : FileTree) : IO Unit := do
  let changed := after.entries.filter fun entry => before.entry? entry.1 ≠ some entry.2
  let ordered := changed.mergeSort fun a b => a.1.length ≤ b.1.length
  for (place, entry) in ordered do
    match entry with
    | .directory => IO.FS.createDirAll (pathOf place)
    | .file content => IO.FS.writeBinFile (pathOf place) content

end CycleSim.Snapshot
