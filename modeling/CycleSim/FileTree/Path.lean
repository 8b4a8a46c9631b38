/-!
# Paths

A path is text whose names are separated by slashes; it starts at the root if it begins with a
slash and at the working directory otherwise.  Runs of slashes count as one.  `Path` holds what
resolving a path depends on: where it starts, its names (`.` and `..` among them) and whether a
slash ends it.
-/

namespace CycleSim

/-- A path, split into what resolving it depends on. -/
structure Path where
  /-- Whether the path starts at the root. -/
  absolute : Bool
  /-- The names between slashes, from left to right. -/
  names : List String
  /-- Whether a slash follows the last name. -/
  trailingSlash : Bool
  deriving DecidableEq, Repr

namespace Path

/-- Splits characters at slashes; the pieces between two slashes may be empty. -/
def splitSlash : List Char → List (List Char)
  | [] => [[]]
  | '/' :: rest => [] :: splitSlash rest
  | c :: rest =>
    match splitSlash rest with
    | [] => [[c]]
    | piece :: pieces => (c :: piece) :: pieces

/-- Reads a path. -/
def ofString (text : String) : Path where
  absolute := text.toList.head? == some '/'
  names := ((splitSlash text.toList).filter (· ≠ [])).map String.ofList
  trailingSlash := text.toList.getLast? == some '/'

/-- The path of the file `name` in the directory `dir`. -/
def join (dir name : String) : String :=
  if dir.isEmpty || dir.toList.getLast? == some '/' then dir ++ name
  else dir ++ "/" ++ name

/-- Names that matter for finding the directory above: a `.` counts only at the start of a
relative path. -/
def significantNames (path : Path) : List String :=
  match path.absolute, path.names with
  | false, "." :: rest => "." :: rest.filter (· ≠ ".")
  | _, names => names.filter (· ≠ ".")

/-- The directories above a path's last name, the longest path first. -/
def ancestors (path : Path) : List Path :=
  let names := path.significantNames
  (List.range names.length).tail.reverse.map fun n => ⟨path.absolute, names.take n, false⟩

end Path

end CycleSim
