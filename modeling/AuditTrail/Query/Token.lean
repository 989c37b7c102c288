import AuditTrail.Text.Blank
import AuditTrail.Text.Case
import AuditTrail.Text.Word
/-!
The tokens of a search text: what stands between blanks, where quotation marks keep blanks inside
a token. The marks stay in the token; one that is not closed reaches to the end of the text.
-/

namespace AuditTrail.Query

open Text

/-- The tokens of a text after a token that has begun, given by its characters in reverse order,
with the quotation mark that is open. -/
def tokensAfter : List Char → Option Char → List Char → List (List Char)
  | [], _, begun => if begun.isEmpty then [] else [begun.reverse]
  | c :: rest, none, begun =>
    if isQuote c then tokensAfter rest (some c) (c :: begun)
    else if isBlank c then
      if begun.isEmpty then tokensAfter rest none []
      else begun.reverse :: tokensAfter rest none []
    else tokensAfter rest none (c :: begun)
  | c :: rest, some mark, begun =>
    tokensAfter rest (if c == mark then none else some mark) (c :: begun)

/-- The tokens of a text. -/
def tokenize (text : List Char) : List (List Char) := tokensAfter text none []

/-- A token without the blanks and then the quotation marks at its ends. -/
def unquote (token : List Char) : List Char := trimBy isQuote (trim token)

/-- The words that join and negate terms. -/
inductive Keyword where
  | and
  | or
  | not
deriving DecidableEq, Repr

/-- The keyword that a token is, in any letter case. -/
def keyword? (token : List Char) : Option Keyword :=
  let word := upper token
  if word == ['A', 'N', 'D'] then some .and
  else if word == ['O', 'R'] then some .or
  else if word == ['N', 'O', 'T'] then some .not
  else none

/-- How a term is joined to the one before it. -/
inductive Joiner where
  | and
  | or
deriving DecidableEq, Repr

/-- The keyword of a joiner. -/
def Joiner.word : Joiner → List Char
  | and => ['A', 'N', 'D']
  | or => ['O', 'R']

/-- The joiner that a word is, in any letter case. -/
def Joiner.ofWord? (word : List Char) : Option Joiner :=
  match keyword? word with
  | some .and => some .and
  | some .or => some .or
  | _ => none

/-- Whether a word, a colon and a character that is neither blank nor a closing parenthesis stand
together anywhere in a text. -/
def isColumnSpecific : List Char → Bool
  | a :: ':' :: b :: rest =>
    (isWord a && !isBlank b && b != ')') || isColumnSpecific (':' :: b :: rest)
  | _ :: rest => isColumnSpecific rest
  | [] => false

end AuditTrail.Query
