import AuditTrail.Text.Letter
import AuditTrail.Text.Numeral
/-!
Word characters: the letters and numerals of every script, and the underscore. Combining marks
and other connectors are none.
-/

namespace AuditTrail.Text

/-- A character that words are made of. -/
def isWord (c : Char) : Bool := isLetter c || isNumeral c || c == '_'

end AuditTrail.Text
