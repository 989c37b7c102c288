import AuditTrail.Path
/-!
The list of directories that modules are searched in. It is made to hold the root directory, the
program's directory and that of a script, each once.
-/

namespace AuditTrail

/-- The places that the search path is made of. -/
structure Places where
  /-- The root directory. -/
  root : Path
  /-- The current directory. -/
  current : Path
  /-- The directories that exist, apart from those on the way to them. -/
  directories : List Path

namespace Places

/-- The directory of the program. -/
def program (places : Places) : Path := places.root.append (.read "backend".toList)

/-- Whether a path is a directory. -/
def isDirectory (places : Places) (path : Path) : Bool := places.directories.any (·.passes path)

/-- The directory of a script: that of its path, or the path itself if it is a directory; the
current directory where no script is given. -/
def script (places : Places) (location : Option (List Char)) : Path :=
  match location with
  | none => places.current
  | some text =>
    let path := Path.resolve places.current (.read text)
    if places.isDirectory path then path else path.parent

/-- The paths from the root of some paths, each once. -/
def distinct (places : Places) (paths : List Path) : List Path :=
  (paths.map (Path.resolve places.current)).eraseDups

/-- The directories that belong on the search path. -/
def wanted (places : Places) (location : Option (List Char)) : List Path :=
  places.distinct [places.root, places.program, places.script location]

end Places

/-- The search path with a directory, at the front or at the end, unless it is listed. -/
def addDirectory (atFront : Bool) (listed : List (List Char)) (directory : Path) :
    List (List Char) :=
  if listed.contains directory.text then listed
  else if atFront then directory.text :: listed
  else listed ++ [directory.text]

/-- The search path with all wanted directories. -/
def extendSearchPath (places : Places) (location : Option (List Char)) (atFront : Bool)
    (listed : List (List Char)) : List (List Char) :=
  (places.wanted location).foldl (addDirectory atFront) listed

end AuditTrail
