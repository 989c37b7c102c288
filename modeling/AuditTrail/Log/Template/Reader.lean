import AuditTrail.Log.Template.Basic
import AuditTrail.Number.Scientific
/-!
Reading templates. The main statement says that reading a mark uses up at least one character, so
that reading a template ends.
-/

namespace AuditTrail.Log

namespace Mark

/-- The number of parentheses that are open behind a character. -/
def openAfter (depth : Nat) (c : Char) : Nat :=
  if c == '(' then depth + 1 else if c == ')' then depth - 1 else depth

/-- A name up to the closing parenthesis, and what follows. It may hold parentheses in pairs;
`depth` counts those that are open. -/
def name? : Nat → List Char → Option (List Char × List Char)
  | _, [] => none
  | 0, ')' :: rest => some ([], rest)
  | depth, c :: rest => (name? (openAfter depth c) rest).map fun (name, rest) => (c :: name, rest)

/-- A character that stands for a flag. -/
def isFlag (c : Char) : Bool := "-0+ #".toList.contains c

/-- The flags that some characters stand for. -/
def flagsOf (marks : List Char) : Flags where
  left := marks.contains '-'
  zeros := marks.contains '0'
  plus := marks.contains '+'
  space := marks.contains ' '
  full := marks.contains '#'

/-- A number that a mark may ask for, and what follows. -/
def amount : List Char → Option Amount × List Char
  | '*' :: rest => (some .taken, rest)
  | text =>
    let digits := text.takeWhile Char.isDigit
    let n := ofDigits (digits.map Scientific.plainValue)
    (if digits.isEmpty then none else some (.fixed n), text.dropWhile Char.isDigit)

/-- A precision, which follows a point, and what follows it; without a number it is zero. -/
def precisionOf : List Char → Option Amount × List Char
  | '.' :: rest =>
    let (found, rest) := amount rest
    (some (found.getD (.fixed 0)), rest)
  | text => (none, text)

/-- The text after a letter for the size of a number, which means nothing. -/
def skipSize : List Char → List Char
  | c :: rest => if "hlL".toList.contains c then rest else c :: rest
  | [] => []

/-- The form that a letter stands for. -/
def form? : Char → Option Form
  | 's' => some .display
  | 'r' => some .literal
  | 'a' => some .ascii
  | 'c' => some .character
  | 'd' => some .decimal
  | 'i' => some .decimal
  | 'u' => some .decimal
  | 'o' => some .octal
  | 'x' => some (.hexadecimal false)
  | 'X' => some (.hexadecimal true)
  | 'e' => some (.real .scientific false)
  | 'E' => some (.real .scientific true)
  | 'f' => some (.real .positional false)
  | 'F' => some (.real .positional true)
  | 'g' => some (.real .general false)
  | 'G' => some (.real .general true)
  | _ => none

/-- A mark behind its percent sign and its name, and what follows. -/
def readUnnamed? (name : Option String) (text : List Char) : Option (Mark × List Char) :=
  let flags := flagsOf (text.takeWhile isFlag)
  let (width, rest) := amount (text.dropWhile isFlag)
  let (precision, rest) := precisionOf rest
  match skipSize rest with
  | letter :: rest => (form? letter).map fun form => (⟨name, flags, width, precision, form⟩, rest)
  | [] => none

/-- A mark behind its percent sign, and what follows. -/
def read? : List Char → Option (Mark × List Char)
  | '(' :: rest =>
    match name? 0 rest with
    | some (name, rest) => readUnnamed? (some (String.ofList name)) rest
    | none => none
  | text => readUnnamed? none text

theorem length_of_name? {depth : Nat} {text name rest : List Char}
    (h : name? depth text = some (name, rest)) : rest.length < text.length := by
  fun_induction name? depth text generalizing name with
  | case1 => simp at h
  | case2 => simp_all
  | case3 depth c more _ ih =>
    obtain ⟨⟨inner, after⟩, found, eq⟩ := Option.map_eq_some_iff.1 h
    simp only [Prod.mk.injEq] at eq
    have shorter := ih (eq.2 ▸ found)
    simp only [List.length_cons]
    omega

theorem length_amount (text : List Char) : (amount text).2.length ≤ text.length := by
  unfold amount
  split
  · simp
  · exact (List.dropWhile_suffix _).length_le

theorem length_precisionOf (text : List Char) : (precisionOf text).2.length ≤ text.length := by
  unfold precisionOf
  split
  · rename_i rest
    have shorter := length_amount rest
    simp only [List.length_cons]
    omega
  · simp

theorem length_skipSize (text : List Char) : (skipSize text).length ≤ text.length := by
  unfold skipSize
  split
  · split <;> simp
  · simp

theorem length_of_readUnnamed? {name : Option String} {text rest : List Char} {mark : Mark}
    (h : readUnnamed? name text = some (mark, rest)) : rest.length < text.length := by
  have flags := (List.dropWhile_suffix isFlag (l := text)).length_le
  have width := length_amount (text.dropWhile isFlag)
  have precision := length_precisionOf (amount (text.dropWhile isFlag)).2
  have size := length_skipSize (precisionOf (amount (text.dropWhile isFlag)).2).2
  simp only [readUnnamed?] at h
  split at h
  · rename_i letter after eq
    obtain ⟨form, _, same⟩ := Option.map_eq_some_iff.1 h
    simp only [Prod.mk.injEq] at same
    rw [eq, same.2, List.length_cons] at size
    omega
  · simp at h

/-- Reading a mark uses up at least one character. -/
theorem length_of_read? {text rest : List Char} {mark : Mark}
    (h : read? text = some (mark, rest)) : rest.length < text.length := by
  unfold read? at h
  split at h
  · split at h
    · rename_i found
      have first := length_of_name? found
      have second := length_of_readUnnamed? h
      simp only [List.length_cons]
      omega
    · simp at h
  · exact length_of_readUnnamed? h

end Mark

namespace Template

/-- The template that a text writes. Two percent signs stand for one. -/
def read? (text : List Char) : Option Template :=
  let plain : Piece := .plain (text.takeWhile (· != '%'))
  match _split : text.dropWhile (· != '%') with
  | [] => some [plain]
  | _ :: '%' :: rest => (read? rest).map fun pieces => plain :: .plain ['%'] :: pieces
  | _ :: rest =>
    match _found : Mark.read? rest with
    | some (mark, rest) => (read? rest).map fun pieces => plain :: .mark mark :: pieces
    | none => none
termination_by text.length
decreasing_by
  · have before := (List.dropWhile_suffix (· != '%') (l := text)).length_le
    rw [_split, List.length_cons, List.length_cons] at before
    omega
  · have before := (List.dropWhile_suffix (· != '%') (l := text)).length_le
    have after := Mark.length_of_read? _found
    rw [_split, List.length_cons] at before
    omega

end Template

end AuditTrail.Log
