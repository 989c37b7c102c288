import AuditTrail.Text.Blank
import AuditTrail.Text.Numeral
/-!
Whole numbers in decimal text. A reader accepts the digits of every script, a sign, blanks around
the number and single underscores between digits.
-/

namespace AuditTrail

open Text

/-- The text of a whole number. -/
def integerText (n : Int) : List Char :=
  if n < 0 then '-' :: Nat.toDigits 10 n.natAbs else Nat.toDigits 10 n.natAbs

/-- A text with a number at least as wide as asked, with leading zeros. -/
def padded (width n : Nat) : List Char :=
  let digits := Nat.toDigits 10 n
  List.replicate (width - digits.length) '0' ++ digits

/-- The most digits that a number is read from. -/
def maxReadDigits : Nat := 4300

/-- A blank around a number: of the ASCII ones, the tab, the line breaks and the space. -/
def isBlankAroundNumber (c : Char) : Bool :=
  if c.toNat < 0x80 then (9 ≤ c.toNat && c.toNat ≤ 13) || c == ' ' else isBlank c

/-- The values of a run of digits with single underscores between them. -/
def digitRun? : List Char → Option (List Nat)
  | [] => none
  | [c] => (decimalValue? c).map ([·])
  | c :: '_' :: rest => do
    let d ← decimalValue? c
    let ds ← digitRun? rest
    pure (d :: ds)
  | c :: rest => do
    let d ← decimalValue? c
    let ds ← digitRun? rest
    pure (d :: ds)

/-- The number that a run of digits writes. -/
def ofDigits (digits : List Nat) : Nat := digits.foldl (fun n d => n * 10 + d) 0

/-- A leading sign and what follows it. -/
def splitSign : List Char → Bool × List Char
  | '-' :: rest => (true, rest)
  | '+' :: rest => (false, rest)
  | text => (false, text)

/-- The whole number that a text writes. -/
def readInteger? (text : List Char) : Option Int := do
  let (negative, body) := splitSign (trimBy isBlankAroundNumber text)
  let digits ← digitRun? body
  if digits.length ≤ maxReadDigits then
    pure (if negative then -(ofDigits digits : Int) else ofDigits digits)
  else none

end AuditTrail
