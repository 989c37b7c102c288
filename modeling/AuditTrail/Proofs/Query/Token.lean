import AuditTrail.Proofs.Text.Blank
import AuditTrail.Query.Token

/-!
# Tokens and quotation marks

What a text does to the tokens of the text behind it depends on the quotation mark that it leaves
open.  A character either goes on with the token that has begun or, if it is a blank outside
quotation marks, ends it, and so a text without such blanks is taken up into one token.
-/

namespace AuditTrail.Query

open Text

/-- The quotation mark that is open behind a character. -/
def markAfter : Option Char → Char → Option Char
  | none, c => if isQuote c then some c else none
  | some mark, c => if c == mark then none else some mark

/-- Whether no blank of a text stands outside quotation marks. -/
def IsUnbroken : Option Char → List Char → Prop
  | _, [] => True
  | mark, c :: rest => (mark.isSome ∨ isBlank c = false) ∧ IsUnbroken (markAfter mark c) rest

/-- A text that is taken up into a token whole and leaves no quotation mark open. -/
structure IsSolid (text : List Char) : Prop where
  unbroken : IsUnbroken none text
  closed : text.foldl markAfter none = none

theorem isUnbroken_append {mark : Option Char} {front back : List Char} :
    IsUnbroken mark (front ++ back) ↔
      IsUnbroken mark front ∧ IsUnbroken (front.foldl markAfter mark) back := by
  induction front generalizing mark with
  | nil => exact (and_iff_right trivial).symm
  | cons c rest ih =>
      rw [List.cons_append, IsUnbroken, IsUnbroken, ih, and_assoc]
      rfl

theorem IsSolid.append {front back : List Char} (first : IsSolid front) (second : IsSolid back) :
    IsSolid (front ++ back) where
  unbroken := isUnbroken_append.mpr ⟨first.unbroken, first.closed.symm ▸ second.unbroken⟩
  closed := by rw [List.foldl_append, first.closed, second.closed]

/-- A text without blanks and quotation marks is solid. -/
theorem isSolid_of_plain {text : List Char}
    (plain : ∀ c ∈ text, isQuote c = false ∧ isBlank c = false) : IsSolid text := by
  induction text with
  | nil => exact ⟨trivial, rfl⟩
  | cons c rest ih =>
      obtain ⟨unquoted, filled⟩ := plain c List.mem_cons_self
      have later := ih fun d member => plain d (List.mem_cons_of_mem c member)
      have outside : markAfter none c = none := by simp [markAfter, unquoted]
      refine ⟨⟨.inr filled, ?_⟩, ?_⟩
      · rw [outside]
        exact later.unbroken
      · rw [List.foldl_cons, outside]
        exact later.closed

/-- A text without the mark that is open stays inside it. -/
theorem inside_mark {mark : Char} {text : List Char} (absent : mark ∉ text) :
    IsUnbroken (some mark) text ∧ text.foldl markAfter (some mark) = some mark := by
  induction text with
  | nil => exact ⟨trivial, rfl⟩
  | cons c rest ih =>
      rw [List.mem_cons, not_or] at absent
      obtain ⟨other, absent⟩ := absent
      have stays : markAfter (some mark) c = some mark := by
        simp [markAfter, Ne.symm other]
      obtain ⟨unbroken, still⟩ := ih absent
      refine ⟨⟨.inl rfl, ?_⟩, ?_⟩
      · rw [stays]
        exact unbroken
      · rw [List.foldl_cons, stays]
        exact still

/-- A text in quotation marks that it does not hold is solid. -/
theorem isSolid_quoted {mark : Char} {text : List Char} (quote : isQuote mark = true)
    (filled : isBlank mark = false) (absent : mark ∉ text) :
    IsSolid (mark :: text ++ [mark]) := by
  obtain ⟨unbroken, still⟩ := inside_mark absent
  have begun : markAfter none mark = some mark := by simp [markAfter, quote]
  constructor
  · refine ⟨.inr filled, ?_⟩
    rw [begun]
    refine isUnbroken_append.mpr ⟨unbroken, ?_⟩
    rw [still]
    exact ⟨.inl rfl, trivial⟩
  · rw [List.cons_append, List.foldl_cons, begun, List.foldl_append, still]
    simp [markAfter]

/-- The token that has begun, if one has. -/
def finished (begun : List Char) : List (List Char) := if begun.isEmpty then [] else [begun.reverse]

theorem finished_of_ne {begun : List Char} (filled : begun ≠ []) :
    finished begun = [begun.reverse] := by
  have some : begun.isEmpty = false := by simpa using filled
  rw [finished, some]
  rfl

theorem tokensAfter_nil (mark : Option Char) (begun : List Char) :
    tokensAfter [] mark begun = finished begun := by
  cases mark <;> rfl

/-- A character is taken up into the token that has begun, or it ends it. -/
theorem taken_or_parting (mark : Option Char) (c : Char) :
    (mark.isSome ∨ isBlank c = false) ∨ (mark = none ∧ isBlank c = true) := by
  cases mark <;> cases isBlank c <;> simp

/-- A character that is no blank, or that stands in quotation marks, becomes part of the token
that has begun. -/
theorem tokensAfter_cons {mark : Option Char} {c : Char} (rest begun : List Char)
    (taken : mark.isSome ∨ isBlank c = false) :
    tokensAfter (c :: rest) mark begun = tokensAfter rest (markAfter mark c) (c :: begun) := by
  cases mark with
  | some mark => rfl
  | none =>
      rw [tokensAfter, markAfter]
      split
      · rfl
      · rw [taken.resolve_left Bool.false_ne_true]
        rfl

theorem not_isQuote_of_isBlank {c : Char} (blank : isBlank c = true) : isQuote c = false := by
  rw [isQuote, Bool.or_eq_false_iff, beq_eq_false_iff_ne, beq_eq_false_iff_ne]
  constructor <;> rintro rfl <;> exact absurd blank (by decide)

/-- A blank outside quotation marks ends the token that has begun. -/
theorem tokensAfter_blank {c : Char} (rest begun : List Char) (blank : isBlank c = true) :
    tokensAfter (c :: rest) none begun = finished begun ++ tokensAfter rest none [] := by
  rw [tokensAfter, not_isQuote_of_isBlank blank, blank, finished]
  cases begun <;> rfl

/-- An unbroken text becomes part of the token that has begun. -/
theorem tokensAfter_append {mark : Option Char} {text : List Char} (rest begun : List Char)
    (unbroken : IsUnbroken mark text) :
    tokensAfter (text ++ rest) mark begun =
      tokensAfter rest (text.foldl markAfter mark) (text.reverse ++ begun) := by
  induction text generalizing mark begun with
  | nil => rfl
  | cons c more ih =>
      obtain ⟨taken, unbroken⟩ := unbroken
      rw [List.cons_append, tokensAfter_cons _ _ taken, ih (c :: begun) unbroken]
      simp

end AuditTrail.Query
