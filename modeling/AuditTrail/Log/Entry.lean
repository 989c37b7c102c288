import AuditTrail.Calendar.Moment
import AuditTrail.Log.Threshold
/-!
Entries of the log and the lines that show them.
-/

namespace AuditTrail.Log

open Text

/-- An entry of the log. -/
structure Entry where
  /-- The weight. -/
  weight : Int
  /-- The part of the program that writes it. -/
  source : List Char
  /-- The text. -/
  message : List Char
  /-- The method and path of the request that is being handled, if one is. -/
  request : Option (List Char × List Char)
deriving DecidableEq, Repr

/-- The part of the program that writes entries about the log itself. -/
def ownSource : List Char := "root".toList

/-- A time as lines show it, to the second. -/
def lineTime (now : Moment) : List Char :=
  let date := now.date
  Nat.toDigits 10 date.year ++ '-' :: padded 2 date.month ++ '-' :: padded 2 date.day ++ ' ' ::
    padded 2 now.hour ++ ':' :: padded 2 now.minute ++ ':' :: padded 2 now.second

/-- The request of an entry, or a dash. -/
def Entry.requestText (entry : Entry) : List Char :=
  match entry.request with
  | some (method, path) => method ++ ' ' :: path
  | none => ['-']

/-- The line of an entry that a process writes at a time. -/
def Entry.line (entry : Entry) (process : Nat) (now : Moment) : List Char :=
  lineTime now ++ ' ' :: weightText entry.weight ++ " [".toList ++ Nat.toDigits 10 process ++
    "] ".toList ++ entry.source ++ " \x7b".toList ++ entry.requestText ++ "\x7d: ".toList ++
    entry.message

end AuditTrail.Log
