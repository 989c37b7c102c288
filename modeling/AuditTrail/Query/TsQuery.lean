import AuditTrail.Query.Token
/-!
Text search expressions: terms of words, each matched as the beginning of a lexeme, joined by `&`
and `|` and negated by `!`.
-/

namespace AuditTrail.Query

open Text

/-- A character that a search word may hold. -/
def isSearchable (c : Char) : Bool := isWord c || c == '-'

/-- The search words of a text: what its characters that are neither searchable nor blank leave. -/
def searchWords (text : List Char) : List (List Char) :=
  words (text.filter fun c => isSearchable c || isBlank c)

/-- A search word, marked to match the beginning of a lexeme. -/
def lexeme (word : List Char) : List Char := word ++ [':', '*']

/-- Search words that have to match together. -/
def lexemes (words : List (List Char)) : List Char := join ['&'] (words.map lexeme)

/-- The expression for one literal text; empty when nothing searchable is left of it. -/
def escapeTerm (text : List Char) : List Char := lexemes (searchWords text)

/-- A term of a text search expression. -/
structure Term where
  /-- How the term is joined to the one before it. -/
  joiner : Joiner
  /-- Set when the term stands behind NOT. -/
  negated : Bool
  /-- The search words, of which there is at least one. -/
  words : List (List Char)
deriving DecidableEq, Repr

/-- The terms of some tokens when a joiner is pending. NOT takes the following token whatever it
is, and tokens without a searchable character leave no term. -/
def termsAfter (pending : Joiner) : List (List Char) → List Term
  | [] => []
  | raw :: rest =>
    let token := trim raw
    if token.isEmpty then termsAfter pending rest
    else match keyword? token with
      | some .and => termsAfter .and rest
      | some .or => termsAfter .or rest
      | some .not =>
        match rest with
        | [] => []
        | operand :: rest =>
          let words := searchWords (unquote operand)
          if words.isEmpty then termsAfter pending rest
          else ⟨pending, true, words⟩ :: termsAfter .and rest
      | none =>
        let words := searchWords (unquote token)
        if words.isEmpty then termsAfter pending rest
        else ⟨pending, false, words⟩ :: termsAfter .and rest

/-- The terms of a list of tokens. -/
def terms (tokens : List (List Char)) : List Term := termsAfter .and tokens

/-- The text of a term without its joiner. -/
def Term.text (term : Term) : List Char :=
  if term.negated then '!' :: lexemes term.words else lexemes term.words

/-- The sign of a joiner. -/
def Joiner.sign : Joiner → Char
  | and => '&'
  | or => '|'

/-- The texts of terms that follow another one, each with its joiner. -/
def followingText : List Term → List Char
  | [] => []
  | term :: rest => ' ' :: term.joiner.sign :: ' ' :: term.text ++ followingText rest

/-- The text search expression of some terms; the first joiner is not written. -/
def expressionText : List Term → List Char
  | [] => []
  | term :: rest => term.text ++ followingText rest

/-- The text search expression of a list of tokens. -/
def fullText (tokens : List (List Char)) : List Char := expressionText (terms tokens)

end AuditTrail.Query
