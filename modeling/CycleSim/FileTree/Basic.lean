import CycleSim.FileTree.Error
import CycleSim.FileTree.Path

/-!
# File trees

The part of a file system that a run reads and writes, as a value: files with their bytes and
directories, each at a location below the root, and a working directory for relative paths.
Paths are resolved name by name, so `missing/../x` fails although `x` may exist, as it does on a
file system that follows directories one at a time.  There are no links and no permissions.

A file is written in two stages: it is opened, which creates or empties it (`create`), and then its
bytes are put into it.  A tree sets no bound on the bytes, so `write` fails at the first stage or
not at all; a writer with a limit of its own puts in what it can after `create`.
-/

namespace CycleSim

/-- A place in a tree: the names from the root down to it. -/
abbrev Location := List String

/-- What stands at a location. -/
inductive Entry where
  | file (content : ByteArray)
  | directory

instance : DecidableEq Entry
  | .directory, .directory => isTrue rfl
  | .directory, .file _ => isFalse nofun
  | .file _, .directory => isFalse nofun
  | .file content, .file other =>
    match ByteArray.decEq content other with
    | isTrue same => isTrue (congrArg Entry.file same)
    | isFalse different => isFalse fun same => different (Entry.file.inj same)

/-- A tree of files and directories.  The root is a directory and needs no entry. -/
structure FileTree where
  entries : List (Location × Entry) := []
  workingDirectory : Location := []

namespace FileTree

/-- What stands at a location, if anything. -/
def entry? (tree : FileTree) (place : Location) : Option Entry :=
  if place = [] then some .directory else tree.entries.lookup place

/-- The tree with `entry` at `place`, replacing what stood there. -/
def insert (tree : FileTree) (place : Location) (entry : Entry) : FileTree :=
  { tree with entries := (place, entry) :: tree.entries.filter (·.1 ≠ place) }

/-- The tree with nothing at `place`. -/
def erase (tree : FileTree) (place : Location) : FileTree :=
  { tree with entries := tree.entries.filter (·.1 ≠ place) }

/-- Looks up one name in the directory at `place`; `.` is the directory itself and `..` the one
above it. -/
def child (tree : FileTree) (place : Location) (name : String) :
    Except FileError (Location × Entry) :=
  match tree.entry? place with
  | some .directory =>
    if name = "." then .ok (place, .directory)
    else if name = ".." then .ok (place.dropLast, .directory)
    else if 255 < name.utf8ByteSize then .error .nameTooLong
    else match tree.entry? (place ++ [name]) with
      | some entry => .ok (place ++ [name], entry)
      | none => .error .notFound
  | some (.file _) => .error .notDirectory
  | none => .error .notFound

/-- Follows names from a location, each of which must exist. -/
def follow (tree : FileTree) : Location → List String → Except FileError (Location × Entry)
  | place, [] =>
    match tree.entry? place with
    | some entry => .ok (place, entry)
    | none => .error .notFound
  | place, name :: names => do
    let (place, _) ← tree.child place name
    tree.follow place names

/-- The location a path starts from. -/
def start (tree : FileTree) (path : Path) : Location :=
  if path.absolute then [] else tree.workingDirectory

/-- Refuses path texts that cannot name anything. -/
def checkPath (text : String) : Except FileError Path :=
  if text.toList.contains '\x00' then .error .nullInPath
  else if text.isEmpty then .error .notFound
  else if 4095 < text.utf8ByteSize then .error .nameTooLong
  else .ok (Path.ofString text)

/-- The directory above a path's last name, found by following the names before it. -/
def holder (tree : FileTree) (path : Path) : Except FileError Location := do
  match ← tree.follow (tree.start path) path.names.dropLast with
  | (place, .directory) => .ok place
  | (_, .file _) => .error .notDirectory

/-- What a path names. -/
def resolve (tree : FileTree) (text : String) : Except FileError (Location × Entry) := do
  let path ← checkPath text
  let found ← tree.follow (tree.start path) path.names
  if path.trailingSlash && found.2 ≠ .directory then .error .notDirectory
  else .ok found

/-- The bytes of a file. -/
def readBytes (tree : FileTree) (text : String) : Except FileError ByteArray := do
  match ← tree.resolve text with
  | (_, .file content) => .ok content
  | (_, .directory) => .error .isDirectory

/-- The text of a file, which has to be UTF-8. -/
def readText (tree : FileTree) (text : String) : Except FileError String := do
  match String.fromUTF8? (← tree.readBytes text) with
  | some content => .ok content
  | none => .error .notText

/-- Finds the place at which a path can be opened for writing: the last name must be a plain one,
not followed by a slash, in an existing directory, and no directory itself. -/
def writablePlace (tree : FileTree) (text : String) : Except FileError Location := do
  let path ← checkPath text
  let dir ← tree.holder path
  match path.names.getLast? with
  | none => .error .isDirectory
  | some name =>
    if name = "." ∨ name = ".." ∨ path.trailingSlash then .error .isDirectory
    else match tree.child dir name with
      | .ok (place, .file _) => .ok place
      | .ok (_, .directory) => .error .isDirectory
      | .error .notFound => .ok (dir ++ [name])
      | .error cause => .error cause

/-- Opens a file for writing, which creates it or empties it; the answer is its place. -/
def create (tree : FileTree) (text : String) : Except FileError (Location × FileTree) := do
  let place ← tree.writablePlace text
  .ok (place, tree.insert place (.file .empty))

/-- Opens a file for writing and writes it in full. -/
def write (tree : FileTree) (text : String) (content : ByteArray) : Except FileError FileTree := do
  let (place, created) ← tree.create text
  .ok (created.insert place (.file content))

/-- Makes one directory. -/
def makeDirectory (tree : FileTree) (path : Path) : Except FileError FileTree := do
  let dir ← tree.holder path
  match path.names.getLast? with
  | none => .error .alreadyExists
  | some name =>
    match tree.child dir name with
    | .ok _ => .error .alreadyExists
    | .error .notFound => .ok (tree.insert (dir ++ [name]) .directory)
    | .error cause => .error cause

/-- Whether the names of a path lead to a directory. -/
def leadsToDirectory (tree : FileTree) (path : Path) : Bool :=
  match tree.follow (tree.start path) path.names with
  | .ok (_, .directory) => true
  | _ => false

/-- Makes the first of the paths a directory; the others are the directories above it, the
longest first, and are made first where they are missing.  A failure keeps what was made. -/
def makeChain (tree : FileTree) : List Path → Except FileError Unit × FileTree
  | [] => (.ok (), tree)
  | path :: above =>
    match tree.makeDirectory path with
    | .ok made => (.ok (), made)
    | .error .notFound =>
      match tree.makeChain above with
      | (.error cause, tree) => (.error cause, tree)
      | (.ok (), tree) =>
        match tree.makeDirectory path with
        | .ok made => (.ok (), made)
        | .error cause => (if tree.leadsToDirectory path then .ok () else .error cause, tree)
    | .error cause => (if tree.leadsToDirectory path then .ok () else .error cause, tree)

/-- Makes a directory with all directories above it; one that exists already is no failure, and
the empty path needs none. -/
def makeDirectories (tree : FileTree) (text : String) : Except FileError Unit × FileTree :=
  if text.isEmpty then (.ok (), tree)
  else match checkPath text with
    | .error cause => (.error cause, tree)
    | .ok path => tree.makeChain (path :: path.ancestors)

/-- Removes a file. -/
def remove (tree : FileTree) (text : String) : Except FileError FileTree := do
  match ← tree.resolve text with
  | (place, .file _) => .ok (tree.erase place)
  | (_, .directory) => .error .isDirectory

end FileTree

end CycleSim
