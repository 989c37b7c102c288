import AuditTrail.Path
import AuditTrail.Text.Utf8
/-!
The files of a disk and the directories that they lie in.
-/

namespace AuditTrail.Log

open Text

/-- The files of a disk: paths with contents, in the order in which they were made. -/
abbrev Disk := List (List Char × List Char)

namespace Disk

/-- Whether there is a file at a path. -/
def has (disk : Disk) (path : List Char) : Bool := disk.any fun file => file.1 == path

/-- The content of the file at a path. -/
def content (disk : Disk) (path : List Char) : List Char := (disk.lookup path).getD []

/-- The disk with an empty file at a path, unless there is a file. -/
def create (disk : Disk) (path : List Char) : Disk :=
  if disk.has path then disk else disk ++ [(path, [])]

/-- The disk with a text at the end of the file at a path. -/
def extend (disk : Disk) (path text : List Char) : Disk :=
  disk.map fun file => if file.1 == path then (file.1, file.2 ++ text) else file

/-- The number of bytes in the file at a path. -/
def size (disk : Disk) (path : List Char) : Nat := (Utf8.encode (disk.content path)).length

/-- Whether there is a directory at a place. The directories are those above the files, those on the
way to a directory that has been made, and those above the current one. -/
def isDirectory (disk : Disk) (made place : Path) : Bool :=
  place.parts.all (· == ['.', '.']) ||
    disk.any (fun file => (Path.read file.1).parent.passes place) ||
    (made :: made.ways).any (·.place.passes place)

/-- Whether all directories that a path leads through are there. -/
def leads (disk : Disk) (made path : Path) : Bool :=
  path.ways.all fun way => disk.isDirectory made way.place

/-- Whether there is a file or a directory at a place. -/
def holds (disk : Disk) (made place : Path) : Bool :=
  disk.any (fun file => (Path.read file.1).passes place) || disk.isDirectory made place

/-- Whether a path leads to a file or a directory. -/
def finds (disk : Disk) (made path : Path) : Bool :=
  disk.leads made path && disk.holds made path.place

end Disk

end AuditTrail.Log
