import AuditTrail.Text.Blank
import AuditTrail.Text.Letter
import AuditTrail.Text.Numeral
/-!
The tokens of a date written in free form: words, numbers, and single characters of any other kind.
A word or number may hold points while it is read; it is then broken at them unless it is a number
with one point inside.
-/

namespace AuditTrail.FreeForm

open Text

/-- A token. -/
abbrev Token := List Char

/-- What kind of token has begun. -/
inductive Mode where
  | word
  | number
  | dottedWord
  | dottedNumber
deriving DecidableEq, Repr

/-- A token that has begun. -/
structure Begun where
  /-- The kind of the token. -/
  mode : Mode
  /-- Its characters, the last one first. -/
  reversed : List Char
  /-- Set once a character has been read while the token was a word. -/
  seenLetters : Bool

namespace Begun

/-- The token with one more character, if the character belongs to it. -/
def extend? (b : Begun) (c : Char) : Option Begun :=
  let last := b.reversed.headD ' '
  let more (mode : Mode) : Option Begun := some { b with mode := mode, reversed := c :: b.reversed }
  match b.mode with
  | .word => if isLetter c then more .word else if c == '.' then more .dottedWord else none
  | .number =>
    if isDigit c then more .number
    else if c == '.' || (c == ',' && 2 ≤ b.reversed.length) then more .dottedNumber
    else none
  | .dottedWord =>
    if c == '.' || isLetter c then more .dottedWord
    else if isDigit c && last == '.' then more .dottedNumber
    else none
  | .dottedNumber =>
    if c == '.' || isDigit c then more .dottedNumber
    else if isLetter c && last == '.' then more .dottedWord
    else none

/-- Notes that a character has been read while the token was a word. -/
def noteRead (b : Begun) : Begun :=
  if b.mode = .word ∨ b.mode = .dottedWord then { b with seenLetters := true } else b

end Begun

/-- A decimal separator. -/
def isPoint (c : Char) : Bool := c == '.' || c == ','

/-- The pieces of a text between decimal separators, and the separators; the last argument holds
the piece that has begun, in reverse order. -/
def splitPoints : List Char → List Char → List Token
  | [], piece => if piece.isEmpty then [] else [piece.reverse]
  | c :: rest, piece =>
    if isPoint c then
      let tail := [c] :: splitPoints rest []
      if piece.isEmpty then tail else piece.reverse :: tail
    else splitPoints rest (c :: piece)

/-- The tokens of a word or number that has ended. -/
def Begun.finish (b : Begun) : List Token :=
  let token := b.reversed.reverse
  let dotted := b.mode = .dottedWord ∨ b.mode = .dottedNumber
  if dotted ∧ (b.seenLetters ∨ 1 < token.count '.' ∨ isPoint (b.reversed.headD ' ')) then
    splitPoints token []
  else if b.mode = .dottedNumber ∧ token.count '.' = 0 then
    [token.map fun c => if c == ',' then '.' else c]
  else [token]

/-- A character that begins a token: the tokens it completes and the one it begins. -/
def begin (c : Char) : List Token × Option Begun :=
  if isLetter c then ([], some ⟨.word, [c], false⟩)
  else if isDigit c then ([], some ⟨.number, [c], false⟩)
  else if isBlank c then ([[' ']], none)
  else ([[c]], none)

/-- The tokens of a text after a token that has begun. The character of number zero is skipped. -/
def tokensAfter : List Char → Option Begun → List Token
  | [], none => []
  | [], some b => b.finish
  | c :: rest, none =>
    if c.toNat == 0 then tokensAfter rest none
    else
      let (done, begun) := begin c
      done ++ tokensAfter rest begun
  | c :: rest, some b =>
    if c.toNat == 0 then tokensAfter rest (some b)
    else
      let b := b.noteRead
      match b.extend? c with
      | some longer => tokensAfter rest (some longer)
      | none =>
        let (done, begun) := begin c
        b.finish ++ done ++ tokensAfter rest begun

/-- The tokens of a text. -/
def tokens (text : List Char) : List Token := tokensAfter text none

end AuditTrail.FreeForm
