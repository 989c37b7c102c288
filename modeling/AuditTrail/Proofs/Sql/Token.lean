import AuditTrail.Proofs.Text.Blank
import Mathlib.Data.List.SplitBy

/-!
# The tokens of a statement

A statement is cut where two neighbouring characters do not belong together.  Names hold letters,
digits and underscores; signs such as `>=` stay whole, and a colon stays with the name behind it,
so a parameter and a conversion are tokens of their own.
-/

namespace AuditTrail.Sql

open Text

/-- What a character can be part of. -/
inductive CharKind where
  | name
  | sign
  /-- Blanks, parentheses and commas stand alone. -/
  | lone
deriving DecidableEq, Repr

/-- The characters of signs. -/
def signChars : List Char := ['<', '>', '=', '@', '*', ':']

/-- The kind of a character. -/
def CharKind.of (c : Char) : CharKind :=
  if c.isAlphanum || c == '_' then .name else if signChars.contains c then .sign else .lone

/-- Whether two neighbouring characters belong to one token. -/
def glued (left right : Char) : Bool :=
  match CharKind.of left, CharKind.of right with
  | .name, .name => true
  | .sign, .sign => true
  | .sign, .name => left == ':'
  | _, _ => false

/-- The uncut tokens of a text. -/
def tokenTexts (text : List Char) : List (List Char) :=
  (text.splitBy glued).filter fun piece => !piece.all isBlank

/-- A token of a statement. -/
inductive Token where
  | selectWord
  | fromWord
  | whereWord
  | orderWord
  | byWord
  | limitWord
  | offsetWord
  | ascWord
  | descWord
  | asWord
  | castWord
  | andWord
  | orWord
  | betweenWord
  | likeWord
  | ilikeWord
  | opening
  | closing
  | comma
  | equals
  | atLeast
  | atMost
  /-- The sign `@@` of a text search. -/
  | searches
  /-- A conversion into a type. -/
  | conversion (type : List Char)
  | parameter (name : List Char)
  | word (text : List Char)
deriving DecidableEq, Repr

/-- The tokens with one text. -/
def Token.fixed : List (List Char × Token) :=
  [("SELECT".toList, .selectWord), ("FROM".toList, .fromWord), ("WHERE".toList, .whereWord),
    ("ORDER".toList, .orderWord), ("BY".toList, .byWord), ("LIMIT".toList, .limitWord),
    ("OFFSET".toList, .offsetWord), ("ASC".toList, .ascWord), ("DESC".toList, .descWord),
    ("AS".toList, .asWord), ("CAST".toList, .castWord), ("AND".toList, .andWord),
    ("OR".toList, .orWord), ("BETWEEN".toList, .betweenWord), ("LIKE".toList, .likeWord),
    ("ILIKE".toList, .ilikeWord), (['('], .opening), ([')'], .closing), ([','], .comma),
    (['='], .equals), (['>', '='], .atLeast), (['<', '='], .atMost), (['@', '@'], .searches)]

/-- The token of an uncut text. -/
def Token.ofText : List Char → Token
  | ':' :: ':' :: type => .conversion type
  | ':' :: name => .parameter name
  | text => (Token.fixed.lookup text).getD (.word text)

/-- The tokens of a text. -/
def tokens (text : List Char) : List Token := (tokenTexts text).map Token.ofText

@[simp]
theorem tokens_nil : tokens [] = [] := rfl

/-- A text may be cut wherever the characters around the cut do not belong together. -/
theorem tokens_append {left right : List Char}
    (cut : ∀ a ∈ left.getLast?, ∀ b ∈ right.head?, glued a b = false) :
    tokens (left ++ right) = tokens left ++ tokens right := by
  simp only [tokens, tokenTexts, List.splitBy_append cut, List.filter_append, List.map_append]

theorem glued_lone_left {a : Char} (lone : CharKind.of a = .lone) (b : Char) :
    glued a b = false := by
  simp [glued, lone]

theorem glued_lone_right (a : Char) {b : Char} (lone : CharKind.of b = .lone) :
    glued a b = false := by
  rw [glued, lone]
  cases CharKind.of a <;> rfl

theorem tokens_lone_cons {c : Char} (lone : CharKind.of c = .lone) (text : List Char) :
    tokens (c :: text) = tokens [c] ++ tokens text := by
  rw [← List.singleton_append]
  apply tokens_append
  intro a last b _
  have same : a = c := by simpa using last.symm
  rw [same]
  exact glued_lone_left lone b

theorem tokens_append_lone {c : Char} (lone : CharKind.of c = .lone) (text rest : List Char) :
    tokens (text ++ c :: rest) = tokens text ++ tokens [c] ++ tokens rest := by
  rw [List.append_assoc, ← tokens_lone_cons lone]
  apply tokens_append
  intro a _ b head
  have same : b = c := by simpa using head.symm
  rw [same]
  exact glued_lone_right a lone

theorem tokens_append_space (text rest : List Char) :
    tokens (text ++ ' ' :: rest) = tokens text ++ tokens rest := by
  rw [tokens_append_lone (by decide)]
  simp [show tokens [' '] = [] from by decide]

theorem tokens_append_line (text rest : List Char) :
    tokens (text ++ '\n' :: rest) = tokens text ++ tokens rest := by
  rw [tokens_append_lone (by decide)]
  simp [show tokens ['\n'] = [] from by decide]

theorem tokens_space_cons (text : List Char) : tokens (' ' :: text) = tokens text :=
  tokens_append_space [] text

theorem tokens_opening (text : List Char) : tokens ('(' :: text) = .opening :: tokens text := by
  rw [tokens_lone_cons (by decide)]
  rfl

theorem tokens_append_closing (text rest : List Char) :
    tokens (text ++ ')' :: rest) = tokens text ++ .closing :: tokens rest := by
  rw [tokens_append_lone (by decide)]
  simp [show tokens [')'] = [.closing] from by decide]

/-- Texts that are put behind blanks keep their tokens. -/
theorem tokens_append_flatMap {α : Type} (text : List Char) (body : α → List Char)
    (rest : List α) :
    tokens (text ++ rest.flatMap fun x => ' ' :: body x) =
      tokens text ++ rest.flatMap fun x => tokens (body x) := by
  have cut : ∀ left rest, tokens (left ++ ([' '] ++ rest)) = tokens left ++ tokens rest :=
    tokens_append_space
  exact append_flatMap_of_cut cut text body rest

/-- The tokens of lines are those of each line. -/
theorem tokens_lines (lines : List (List Char)) :
    tokens (join ['\n'] lines) = lines.flatMap tokens :=
  join_of_cut tokens_append_line tokens_nil lines

/-- A text whose neighbours all belong together is one token. -/
theorem tokens_of_isChain {text : List Char} (ne : text ≠ [])
    (chain : text.IsChain fun a b => glued a b = true) (filled : text.all isBlank = false) :
    tokens text = [Token.ofText text] := by
  rw [tokens, tokenTexts, List.splitBy_of_isChain ne chain]
  simp [filled]

/-- A parameter whose name is made of name characters is one token. -/
theorem tokens_parameter {name : List Char} (ne : name ≠ [])
    (named : ∀ c ∈ name, CharKind.of c = .name) :
    tokens (':' :: name) = [.parameter name] := by
  have chain : (':' :: name).IsChain fun a b => glued a b = true := by
    cases name with
    | nil => exact absurd rfl ne
    | cons first rest =>
        rw [List.isChain_cons_cons]
        refine ⟨by simp [glued, named first (by simp), show CharKind.of ':' = .sign from rfl], ?_⟩
        clear ne
        induction rest generalizing first with
        | nil => simp
        | cons next rest ih =>
            rw [List.isChain_cons_cons]
            refine ⟨by simp [glued, named first (by simp), named next (by simp)], ?_⟩
            exact ih next fun c inside => named c (List.mem_cons_of_mem first inside)
  rw [tokens_of_isChain (by simp) chain (by simp [show isBlank ':' = false from by decide])]
  cases name with
  | nil => exact absurd rfl ne
  | cons first rest =>
      have plain : first ≠ ':' := by
        rintro rfl
        exact absurd (named ':' (by simp)) (by decide)
      rw [Token.ofText]
      intro type same
      exact absurd (List.cons.inj same).1 plain

end AuditTrail.Sql
