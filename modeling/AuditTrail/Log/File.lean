import AuditTrail.Calendar.Moment
import AuditTrail.Log.Disk
/-!
Log files of limited size. Each file is named for the time at which it is begun, with a number where
there is something at the path without one.
-/

namespace AuditTrail.Log

open Text

/-- A time as names of files show it, to the millisecond. -/
def stamp (now : Moment) : List Char :=
  let date := now.date
  Nat.toDigits 10 date.year ++ padded 2 date.month ++ padded 2 date.day ++ '-' ::
    padded 2 now.hour ++ padded 2 now.minute ++ padded 2 now.second ++ '-' ::
    padded 3 (now.microsecond / 1000)

/-- The path of a number of a file; the number zero is not written. -/
def numberedPath (directory : Path) (title : List Char) (number : Nat) : Path :=
  let suffix := if number = 0 then [] else '-' :: Nat.toDigits 10 number
  directory.append (.read (title ++ suffix ++ ".log".toList))

/-- The first path of a title that leads to nothing. -/
def freshPath (disk : Disk) (directory : Path) (title : List Char) : Path :=
  numberedPath directory title
    (((List.range (disk.length + directory.parts.length + 2)).find? fun number =>
      !disk.finds directory (numberedPath directory title number)).getD 0)

/-- A writer of log files. -/
structure Writer where
  /-- The directory of its files. -/
  directory : Path
  /-- How the names of its files begin. -/
  label : List Char
  /-- The size from which on a new file is begun; no limit unless it is positive. -/
  limit : Int
  /-- The path of the current file. -/
  path : List Char
deriving DecidableEq, Repr

namespace Writer

/-- The path of the next file. -/
def nextPath (disk : Disk) (directory : Path) (label : List Char) (now : Moment) : Path :=
  freshPath disk directory (label ++ '-' :: stamp now)

/-- A writer that begins its first file, at the place of its path. -/
def begin (directory : Path) (label : List Char) (limit : Int) (now : Moment) (disk : Disk) :
    Writer × Disk :=
  let path := (nextPath disk directory label now).place.text
  (⟨directory, label, limit, path⟩, disk.create path)

/-- Whether the current file is too full for a line. -/
def isFull (writer : Writer) (disk : Disk) (line : List Char) : Bool :=
  0 < writer.limit && writer.limit ≤ (disk.size writer.path + line.length : Nat)

/-- The writer after it has begun another file. Nothing is made, and nothing will be written, where
the path leads through directories that are not there. -/
def rollOver (writer : Writer) (now : Moment) (disk : Disk) : Writer × Disk :=
  let path := nextPath disk writer.directory writer.label now
  let leads := disk.leads writer.directory path
  ({ writer with path := if leads then path.place.text else path.text },
    if leads then disk.create path.place.text else disk)

/-- Writes a text as a line, into a new file if the current one is too full. -/
def write (writer : Writer) (now : Moment) (text : List Char) (disk : Disk) : Writer × Disk :=
  let line := text ++ ['\n']
  let (writer, disk) :=
    if writer.isFull disk line then writer.rollOver now disk else (writer, disk)
  (writer, disk.extend writer.path line)

end Writer

end AuditTrail.Log
