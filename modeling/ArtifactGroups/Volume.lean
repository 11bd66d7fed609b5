import ArtifactGroups.Error
import ArtifactGroups.Index.Draft
import ArtifactGroups.Text.Order
import ArtifactGroups.Text.Search

/-! A tree of directories and files in memory, and how paths name places in it. A path is
followed one name at a time; whatever it passes through has to be a directory. -/
namespace ArtifactGroups

/-- The names that lead from the root to a file or directory. -/
abbrev Place := List String

inductive Entry where
  | directory
  | file (content : Bytes)
  /-- The file that makes its directory an index. -/
  | manifest (index : Index.Manifest)
  deriving DecidableEq

structure Volume where
  /-- Where relative paths start. It exists, with all directories above it. -/
  workingDirectory : Place := ["home"]
  entries : List (Place × Entry) := []
  deriving DecidableEq

namespace Volume

def entryAt? (volume : Volume) (place : Place) : Option Entry :=
  if place.isPrefixOf volume.workingDirectory then some .directory
  else volume.entries.lookup place

def put (volume : Volume) (place : Place) (entry : Entry) : Volume :=
  { volume with entries := (place, entry) :: volume.entries.filter (·.1 != place) }

def remove (volume : Volume) (place : Place) : Volume :=
  { volume with entries := volume.entries.filter (·.1 != place) }

def requireDirectory (volume : Volume) (place : Place) : Except PathFault Unit :=
  match volume.entryAt? place with
  | some .directory => .ok ()
  | some _ => .error .notDirectory
  | none => .error .missing

def nameLimit : Nat := 255

/-- Longest path, in bytes. -/
def pathLimit : Nat := 4095

/-- Follows names from a directory. The last name need not exist. -/
def follow (volume : Volume) : Place → List String → Except PathFault Place
  | place, [] => .ok place
  | place, name :: rest => do
    volume.requireDirectory place
    if name = "" || name = "." then volume.follow place rest
    else if name = ".." then volume.follow place.dropLast rest
    else if nameLimit < name.utf8ByteSize then .error .nameTooLong
    else volume.follow (place ++ [name]) rest

/-- Where following a path starts, and the names to follow. -/
def names (volume : Volume) (path : String) : Except PathFault (Place × List String) :=
  if Text.contains path "\x00" then .error .containsNul
  else if path.isEmpty then .error .missing
  else if pathLimit < path.utf8ByteSize then .error .nameTooLong
  else .ok (if Text.startsWith path "/" then [] else volume.workingDirectory,
    Text.pieces '/' path)

def resolve (volume : Volume) (path : String) : Except PathFault Place := do
  let (start, names) ← volume.names path
  volume.follow start names

def find (volume : Volume) (path : String) : Except PathFault (Place × Entry) := do
  let place ← volume.resolve path
  match volume.entryAt? place with
  | some entry => .ok (place, entry)
  | none => .error .missing

def directory? (volume : Volume) (path : String) : Option Place :=
  match volume.find path with
  | .ok (place, .directory) => some place
  | _ => none

/-- The content of a file. A directory can be found but not read. -/
def read (volume : Volume) (path : String) : Except PathFault (Except PathFault Bytes) := do
  match (← volume.find path).2 with
  | .file content => .ok (.ok content)
  | .manifest index => .ok (.ok index.text)
  | .directory => .ok (.error .isDirectory)

/-- The place where a file can be written: an existing file, or a new name in a directory. -/
def fileToCreate (volume : Volume) (path : String) : Except PathFault Place := do
  let (start, names) ← volume.names path
  if names.getLast? = some "" then
    let parents := (names.reverse.dropWhile (·.isEmpty)).tail.reverse
    volume.requireDirectory (← volume.follow start parents)
    .error .isDirectory
  else
    let place ← volume.follow start names
    if volume.entryAt? place = some .directory then .error .isDirectory else .ok place

def makeAlong (volume : Volume) (place : Place) : List String → Volume
  | [] => volume
  | name :: rest =>
    match volume.follow place [name] with
    | .error _ => volume
    | .ok next =>
      match volume.entryAt? next with
      | none => (volume.put next .directory).makeAlong next rest
      | some _ => volume.makeAlong next rest

def makeDirectories (volume : Volume) (path : String) : Volume :=
  match volume.names path with
  | .error _ => volume
  | .ok (start, names) => volume.makeAlong start names

def install (volume : Volume) (path : String) : Option Bytes → Volume
  | none => volume.makeDirectories path
  | some content =>
    let parents := "/".intercalate (Text.pieces '/' path).dropLast
    let volume := if parents.isEmpty then volume else volume.makeDirectories parents
    match volume.fileToCreate path with
    | .ok place => volume.put place (.file content)
    | .error _ => volume

def fileNames (volume : Volume) (path : String) : List String :=
  match volume.directory? path with
  | none => []
  | some place =>
    (volume.entries.filterMap fun (other, entry) =>
      if entry ≠ .directory ∧ other.dropLast = place then other.getLast? else none).mergeSort
        fun s t => !Text.precedes t s

end Volume

end ArtifactGroups
