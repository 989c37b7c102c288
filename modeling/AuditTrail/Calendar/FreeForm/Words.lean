import AuditTrail.Calendar.FreeForm.Token
import AuditTrail.Text.Case
/-!
The words that a date in free form may hold, in any letter case.
-/

namespace AuditTrail.FreeForm

open Text

/-- The index of the first entry of a table that lists a token. -/
def indexIn? (table : List (List String)) (token : Token) : Option Nat :=
  let word := String.ofList (lower token)
  table.findIdx? (·.contains word)

/-- The days of the week, from Monday. -/
def weekdayTable : List (List String) :=
  [["mon", "monday"], ["tue", "tuesday"], ["wed", "wednesday"], ["thu", "thursday"],
    ["fri", "friday"], ["sat", "saturday"], ["sun", "sunday"]]

/-- The months. -/
def monthTable : List (List String) :=
  [["jan", "january"], ["feb", "february"], ["mar", "march"], ["apr", "april"], ["may"],
    ["jun", "june"], ["jul", "july"], ["aug", "august"], ["sep", "sept", "september"],
    ["oct", "october"], ["nov", "november"], ["dec", "december"]]

/-- The parts of a time of day, from the hour. -/
def unitTable : List (List String) :=
  [["h", "hour", "hours"], ["m", "minute", "minutes"], ["s", "second", "seconds"]]

/-- The halves of a day. -/
def halfTable : List (List String) := [["am", "a"], ["pm", "p"]]

/-- Tokens without a meaning of their own. -/
def fillers : List String :=
  [" ", ".", ",", ";", "-", "/", "'", "at", "on", "and", "ad", "m", "t", "of", "st", "nd", "rd",
    "th"]

/-- The day of the week that a token names; Monday is 0. -/
def weekday? (token : Token) : Option Nat := indexIn? weekdayTable token

/-- The month that a token names. -/
def month? (token : Token) : Option Nat := (indexIn? monthTable token).map (· + 1)

/-- The part of a time of day that a token names: 0 the hour, 1 the minute, 2 the second. -/
def unit? (token : Token) : Option Nat := indexIn? unitTable token

/-- The half of the day that a token names; the afternoon is true. -/
def half? (token : Token) : Option Bool := (indexIn? halfTable token).map (· == 1)

/-- A token without a meaning of its own. -/
def isFiller (token : Token) : Bool := fillers.contains (String.ofList (lower token))

/-- The word between a month and its year. -/
def isOf (token : Token) : Bool := lower token == "of".toList

/-- A name of universal time. -/
def isUniversal (token : Token) : Bool :=
  ["utc", "gmt", "z"].contains (String.ofList (lower token))

/-- A token that may name a zone: up to five capital letters, or a name of universal time. -/
def looksLikeZone (token : Token) : Bool :=
  token.length ≤ 5 && (token.all Char.isUpper || token == ['z'])

end AuditTrail.FreeForm
