/-!
Taking a text apart at a mark. The main statement says that joining the pieces with the mark gives
the text back.
-/

namespace AuditTrail.Text

/-- The pieces of a text after a piece that has begun (its characters in reverse order). -/
def piecesAfter (mark : Char) : List Char → List Char → List (List Char)
  | [], begun => [begun.reverse]
  | c :: rest, begun =>
    if c == mark then begun.reverse :: piecesAfter mark rest []
    else piecesAfter mark rest (c :: begun)

/-- The pieces of a text between the occurrences of a mark. -/
def pieces (mark : Char) (text : List Char) : List (List Char) := piecesAfter mark text []

/-- The text before the first occurrence of a mark and the text after it. -/
def splitFirst (mark : Char) (text : List Char) : List Char × List Char :=
  (text.takeWhile (· != mark), (text.dropWhile (· != mark)).drop 1)

theorem piecesAfter_ne_nil (mark : Char) (text begun : List Char) :
    piecesAfter mark text begun ≠ [] := by
  induction text generalizing begun with
  | nil => simp [piecesAfter]
  | cons c rest ih =>
    by_cases h : c == mark
    · simp [piecesAfter, h]
    · simpa [piecesAfter, h] using ih (c :: begun)

theorem intercalate_piecesAfter (mark : Char) (text begun : List Char) :
    List.intercalate [mark] (piecesAfter mark text begun) = begun.reverse ++ text := by
  induction text generalizing begun with
  | nil => simp [piecesAfter, List.intercalate]
  | cons c rest ih =>
    by_cases h : c == mark
    · have same : c = mark := by simpa using h
      obtain ⟨first, more, eq⟩ := List.exists_cons_of_ne_nil (piecesAfter_ne_nil mark rest [])
      have joined := ih []
      rw [eq] at joined
      simp only [piecesAfter, h, if_true, eq]
      simp only [List.intercalate, List.intersperse_cons_cons, List.flatten_cons] at joined ⊢
      rw [joined, same]
      simp
    · have joined := ih (c :: begun)
      simpa [piecesAfter, h] using joined

/-- Joining the pieces with the mark gives the text back. -/
theorem intercalate_pieces (mark : Char) (text : List Char) :
    List.intercalate [mark] (pieces mark text) = text := by
  simpa [pieces] using intercalate_piecesAfter mark text []

end AuditTrail.Text
