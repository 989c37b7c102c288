import AuditTrail.Text.Blank
import AuditTrail.Text.Pieces
/-!
Paths of files and directories in normal form: neither empty parts nor single dots. A path that
leads back over names has a shorter path to the same place.
-/

namespace AuditTrail

open Text

/-- A path. -/
structure Path where
  /-- The number of slashes that it begins with: none, one or two. -/
  slashes : Nat
  /-- The names along the path. -/
  parts : List (List Char)
deriving DecidableEq, Repr

namespace Path

/-- The slashes that count at the beginning of a text; three or more are one. -/
def leadingSlashes : List Char → Nat
  | '/' :: '/' :: '/' :: _ => 1
  | '/' :: '/' :: _ => 2
  | '/' :: _ => 1
  | _ => 0

/-- Whether a name leads anywhere. -/
def isPart (name : List Char) : Bool := !name.isEmpty && name != ['.']

/-- The path that a text writes. -/
def read (text : List Char) : Path := ⟨leadingSlashes text, (pieces '/' text).filter isPart⟩

/-- The text of a path; the empty path is a dot. -/
def text (path : Path) : List Char :=
  if path.slashes = 0 && path.parts.isEmpty then ['.']
  else List.replicate path.slashes '/' ++ join ['/'] path.parts

/-- Whether a path begins at the root. -/
def isAbsolute (path : Path) : Bool := path.slashes != 0

/-- A path seen from another one. -/
def append (base path : Path) : Path :=
  if path.isAbsolute then path else ⟨base.slashes, base.parts ++ path.parts⟩

/-- One step along a path: two dots lead back. -/
def step (names : List (List Char)) (name : List Char) : List (List Char) :=
  if name == ['.', '.'] then names.dropLast else names ++ [name]

/-- The path from the root, without two dots, of a path seen from a directory. -/
def resolve (directory path : Path) : Path := ⟨1, (directory.append path).parts.foldl step []⟩

/-- One step along a path that begins with some slashes: where no name is left and the path does not
begin at the root, two dots stay. -/
def stepFrom (slashes : Nat) (names : List (List Char)) (name : List Char) : List (List Char) :=
  if slashes = 0 && names.all (· == ['.', '.']) then names ++ [name] else step names name

/-- The shortest path to where a path leads, if all directories on its way are there; two slashes
lead to where one does. -/
def place (path : Path) : Path :=
  ⟨min path.slashes 1, path.parts.foldl (stepFrom path.slashes) []⟩

/-- The directories that a path leads through. -/
def ways (path : Path) : List Path :=
  (List.range path.parts.length).map fun count => ⟨path.slashes, path.parts.take count⟩

/-- The directory that a path lies in. -/
def parent (path : Path) : Path := ⟨path.slashes, path.parts.dropLast⟩

/-- Whether a path leads to another one or beyond it. -/
def passes (path other : Path) : Bool :=
  path.slashes == other.slashes && other.parts.isPrefixOf path.parts

end Path

end AuditTrail
