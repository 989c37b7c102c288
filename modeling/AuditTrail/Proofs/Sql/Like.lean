import AuditTrail.Proofs.Text.Case
import AuditTrail.Sql.Where
import Mathlib.Data.List.Infix

/-!
# Patterns as the store matches them

In a pattern `%` stands for any run of characters, `_` for any one, and a backslash makes the
character behind it stand for itself.  When letter case is ignored, text and pattern are folded
before they are compared.
-/

namespace AuditTrail.Sql

open Text

/-- A piece of a pattern. -/
inductive Piece where
  /-- Any run of characters, also an empty one. -/
  | run
  /-- Any one character. -/
  | one
  | exactly (c : Char)
deriving DecidableEq, Repr

/-- The pieces that a pattern writes; none when it ends in an open backslash. -/
def pieces? : List Char → Option (List Piece)
  | [] => some []
  | ['\\'] => none
  | '\\' :: c :: rest => (pieces? rest).map (.exactly c :: ·)
  | '%' :: rest => (pieces? rest).map (.run :: ·)
  | '_' :: rest => (pieces? rest).map (.one :: ·)
  | c :: rest => (pieces? rest).map (.exactly c :: ·)

/-- Whether a text fits some pieces from its beginning to its end. -/
def fitsPieces : List Piece → List Char → Bool
  | [], text => text.isEmpty
  | .run :: rest, text => text.tails.any (fitsPieces rest)
  | .one :: rest, _ :: text => fitsPieces rest text
  | .exactly c :: rest, d :: text => c == d && fitsPieces rest text
  | _ :: _, [] => false

/-- Whether a text fits a pattern. -/
def fitsPattern (text pattern : List Char) : Bool := (pieces? pattern).any (fitsPieces · text)

/-- A character that is not taken literally in a pattern. -/
def isSign (c : Char) : Bool := c == '%' || c == '_' || c == '\\'

/-- A text without signs stands for itself in a pattern. -/
def IsLiteral (text : List Char) : Prop := ∀ c ∈ text, isSign c = false

@[simp]
theorem isLiteral_cons {c : Char} {text : List Char} :
    IsLiteral (c :: text) ↔ isSign c = false ∧ IsLiteral text := by
  simp [IsLiteral]

@[simp]
theorem isLiteral_append {front back : List Char} :
    IsLiteral (front ++ back) ↔ IsLiteral front ∧ IsLiteral back := by
  simp [IsLiteral, or_imp, forall_and]

theorem isSign_eq_false_iff {c : Char} : isSign c = false ↔ c ≠ '%' ∧ c ≠ '_' ∧ c ≠ '\\' := by
  simp [isSign, and_assoc]

theorem pieces?_cons_of_literal {c : Char} (literal : isSign c = false) (rest : List Char) :
    pieces? (c :: rest) = (pieces? rest).map (.exactly c :: ·) := by
  obtain ⟨run, one, escape⟩ := isSign_eq_false_iff.mp literal
  rw [pieces?]
  · exact fun same => absurd same escape
  · exact fun d tail same => absurd same escape
  · exact run
  · exact one

theorem pieces?_append_of_literal {text : List Char} (literal : IsLiteral text)
    (rest : List Char) :
    pieces? (text ++ rest) = (pieces? rest).map (text.map .exactly ++ ·) := by
  induction text with
  | nil => simp
  | cons c text ih =>
      obtain ⟨first, later⟩ := isLiteral_cons.mp literal
      rw [List.cons_append, pieces?_cons_of_literal first, ih later, Option.map_map]
      rfl

/-- Characters that stand for themselves are found at the beginning. -/
theorem fitsPieces_exactly (word : List Char) (rest : List Piece) (text : List Char) :
    fitsPieces (word.map .exactly ++ rest) text = true ↔
      ∃ back, text = word ++ back ∧ fitsPieces rest back = true := by
  induction word generalizing text with
  | nil => simp
  | cons c word ih =>
      cases text with
      | nil => simp [fitsPieces]
      | cons d text =>
          simp only [List.map_cons, List.cons_append, fitsPieces, Bool.and_eq_true, beq_iff_eq,
            List.cons.injEq, ih]
          constructor
          · rintro ⟨rfl, back, rfl, fits⟩
            exact ⟨back, ⟨rfl, rfl⟩, fits⟩
          · rintro ⟨back, ⟨rfl, rfl⟩, fits⟩
            exact ⟨rfl, back, rfl, fits⟩

theorem fitsPieces_run (rest : List Piece) (text : List Char) :
    fitsPieces (.run :: rest) text = true ↔
      ∃ back, back <:+ text ∧ fitsPieces rest back = true := by
  simp [fitsPieces]

/-- Everything fits a run of any characters. -/
theorem fitsPieces_only_run (text : List Char) : fitsPieces [.run] text = true :=
  (fitsPieces_run [] text).mpr ⟨[], List.nil_suffix, rfl⟩

/-- A term without signs is found exactly in the texts that contain it. -/
theorem fitsPattern_containsPattern {term : List Char} (literal : IsLiteral term)
    (text : List Char) : fitsPattern text (containsPattern term) = true ↔ term <:+: text := by
  have pieces : pieces? (containsPattern term) = some (.run :: (term.map .exactly ++ [.run])) := by
    have last : pieces? ['%'] = some [.run] := rfl
    rw [containsPattern, List.cons_append, pieces?, pieces?_append_of_literal literal, last]
    rfl
  rw [fitsPattern, pieces, Option.any_some, fitsPieces_run]
  simp only [fitsPieces_exactly, fitsPieces_only_run, and_true]
  constructor
  · rintro ⟨_, ⟨front, rfl⟩, back, rfl⟩
    exact ⟨front, back, List.append_assoc front term back⟩
  · rintro ⟨front, back, rfl⟩
    exact ⟨term ++ back, ⟨front, (List.append_assoc front term back).symm⟩, back, rfl⟩

/-- A text that fits a term read as a pattern: the term without its runs and backslashes, with
`%` where any one character may stand.  A backslash at the end takes hold of the `%` behind the
term. -/
def sample : List Char → List Char
  | [] => []
  | ['\\'] => ['%']
  | '\\' :: c :: rest => c :: sample rest
  | '%' :: rest => sample rest
  | '_' :: rest => '%' :: sample rest
  | c :: rest => c :: sample rest

/-- What is left when no other case of a sample applies. -/
theorem isSign_eq_false_of_sample {c : Char} {rest : List Char}
    (last : c = '\\' → rest ≠ []) (escape : ∀ d tail, c = '\\' → rest ≠ d :: tail)
    (run : c ≠ '%') (one : c ≠ '_') : isSign c = false := by
  refine isSign_eq_false_iff.mpr ⟨run, one, fun same => ?_⟩
  cases rest with
  | nil => exact last same rfl
  | cons d tail => exact escape d tail same rfl

theorem fitsPattern_sample (term : List Char) :
    fitsPattern (sample term) (containsPattern term) = true := by
  have found : ∃ pieces, pieces? (term ++ ['%']) = some pieces ∧
      fitsPieces pieces (sample term) = true := by
    fun_induction sample term with
    | case1 => exact ⟨[.run], rfl, rfl⟩
    | case2 => exact ⟨[.exactly '%'], rfl, rfl⟩
    | case3 c rest ih =>
        obtain ⟨pieces, written, fits⟩ := ih
        exact ⟨.exactly c :: pieces, by simp [pieces?, written], by simp [fitsPieces, fits]⟩
    | case4 rest ih =>
        obtain ⟨pieces, written, fits⟩ := ih
        refine ⟨.run :: pieces, by simp [pieces?, written], ?_⟩
        exact (fitsPieces_run _ _).mpr ⟨_, List.suffix_rfl, fits⟩
    | case5 rest ih =>
        obtain ⟨pieces, written, fits⟩ := ih
        exact ⟨.one :: pieces, by simp [pieces?, written], by simp [fitsPieces, fits]⟩
    | case6 c rest last escape run one ih =>
        obtain ⟨pieces, written, fits⟩ := ih
        have literal := isSign_eq_false_of_sample last escape run one
        refine ⟨.exactly c :: pieces, ?_, by simp [fitsPieces, fits]⟩
        rw [List.cons_append, pieces?_cons_of_literal literal, written]
        rfl
  obtain ⟨pieces, written, fits⟩ := found
  have whole : pieces? (containsPattern term) = some (.run :: pieces) := by
    rw [containsPattern, List.cons_append, pieces?, written]
    rfl
  rw [fitsPattern, whole, Option.any_some]
  exact (fitsPieces_run _ _).mpr ⟨_, List.suffix_rfl, fits⟩

theorem length_sample_le (term : List Char) : (sample term).length ≤ term.length := by
  fun_induction sample term with
  | case1 => exact le_rfl
  | case2 => exact le_rfl
  | case3 c rest ih => simp only [List.length_cons]; omega
  | case4 rest ih => simp only [List.length_cons]; omega
  | case5 rest ih => simpa using ih
  | case6 c rest _ _ _ _ ih => simpa using ih

/-- Only terms without signs are their own samples. -/
theorem isLiteral_of_sample_eq {term : List Char} (same : sample term = term) :
    IsLiteral term := by
  fun_induction sample term with
  | case1 => simp [IsLiteral]
  | case2 => simp at same
  | case3 c rest ih =>
      have short := length_sample_le rest
      have long := congrArg List.length same
      simp only [List.length_cons] at long
      omega
  | case4 rest ih =>
      have short := length_sample_le rest
      have long := congrArg List.length same
      simp only [List.length_cons] at long
      omega
  | case5 rest ih => simp at same
  | case6 c rest last escape run one ih =>
      have literal := isSign_eq_false_of_sample last escape run one
      simp only [List.cons.injEq, true_and] at same
      exact isLiteral_cons.mpr ⟨literal, ih same⟩

/-- A sample that contains its term is the term, as it is no longer. -/
theorem isLiteral_of_isInfix_sample {term : List Char} (contained : term <:+: sample term) :
    IsLiteral term := by
  have same := contained.sublist.eq_of_length_le (length_sample_le term)
  exact isLiteral_of_sample_eq same.symm

/-! ## Letter case -/

/-- A way to ignore letter case.  Every character is folded by itself, a sign to itself and any
other character to a text without signs. -/
structure Folding where
  char : Char → List Char
  char_of_sign : ∀ c, isSign c = true → char c = [c]
  char_ne_nil : ∀ c, char c ≠ []
  isLiteral_char : ∀ c, isSign c = false → IsLiteral (char c)

/-- No other character becomes a sign in lower case. -/
theorem isLiteral_lowerChar (c : Char) (literal : isSign c = false) :
    IsLiteral (lowerChar c) := by
  rcases lowerChar_cases c with expanded | ⟨d, single⟩
  · have plain : isSign (Char.ofNat 105) = false ∧ isSign (Char.ofNat 775) = false := by decide
    simpa [expanded, IsLiteral] using plain
  · cases sign : isSign d with
    | false => simpa [single, IsLiteral] using sign
    | true =>
        have plain : 0 < d.toNat ∧ d.toNat < 128 ∧ d ≠ 'k' := by
          simp only [isSign, Bool.or_eq_true, beq_iff_eq] at sign
          rcases sign with (rfl | rfl) | rfl <;> decide
        have ascii : c.toNat < 128 := lt_of_lowerChar (by simpa [single] using plain)
        have table : ∀ point < 128, isSign (Char.ofNat point) = false →
            isSign (Char.ofNat point).toLower = false := by decide +kernel
        have lowered := forall_ascii (p := fun c => isSign c = false → isSign c.toLower = false)
          table c ascii literal
        simpa [lowerChar_of_lt ascii, IsLiteral] using lowered

namespace Folding

/-- A text without its differences of letter case. -/
def text (folding : Folding) (text : List Char) : List Char := text.flatMap folding.char

/-- Whether a text fits a pattern when letter case is ignored. -/
def fits (folding : Folding) (text pattern : List Char) : Bool :=
  fitsPattern (folding.text text) (folding.text pattern)

/-- Every character in lower case. -/
def lower : Folding where
  char := lowerChar
  char_of_sign c sign := by
    simp only [isSign, Bool.or_eq_true, beq_iff_eq] at sign
    rcases sign with (rfl | rfl) | rfl <;> decide +kernel
  char_ne_nil c := by
    rcases lowerChar_cases c with expanded | ⟨d, single⟩ <;> simp [*]
  isLiteral_char := isLiteral_lowerChar

variable (folding : Folding)

@[simp]
theorem text_nil : folding.text [] = [] := rfl

@[simp]
theorem text_cons (c : Char) (rest : List Char) :
    folding.text (c :: rest) = folding.char c ++ folding.text rest := List.flatMap_cons

theorem text_containsPattern (term : List Char) :
    folding.text (containsPattern term) = containsPattern (folding.text term) := by
  have percent : folding.char '%' = ['%'] := folding.char_of_sign '%' rfl
  simp [containsPattern, text, percent]

theorem isLiteral_text_iff {term : List Char} :
    IsLiteral (folding.text term) ↔ IsLiteral term := by
  induction term with
  | nil => rfl
  | cons c rest ih =>
      rw [text_cons, isLiteral_append, isLiteral_cons, ih]
      refine and_congr_left fun _ => ?_
      cases sign : isSign c with
      | true => simp [folding.char_of_sign c sign, sign]
      | false => simpa using folding.isLiteral_char c sign

theorem sample_append_of_literal {front : List Char} (literal : IsLiteral front)
    (rest : List Char) : sample (front ++ rest) = front ++ sample rest := by
  induction front with
  | nil => rfl
  | cons c front ih =>
      obtain ⟨first, later⟩ := isLiteral_cons.mp literal
      obtain ⟨run, one, escape⟩ := isSign_eq_false_iff.mp first
      rw [List.cons_append, sample, ih later]
      · rfl
      · exact fun same => absurd same escape
      · exact fun d tail same => absurd same escape
      · exact run
      · exact one

/-- The sample of a folded term is the folded sample. -/
theorem text_sample (term : List Char) :
    folding.text (sample term) = sample (folding.text term) := by
  have percent : folding.char '%' = ['%'] := folding.char_of_sign '%' rfl
  have one : folding.char '_' = ['_'] := folding.char_of_sign '_' rfl
  have escape : folding.char '\\' = ['\\'] := folding.char_of_sign '\\' rfl
  fun_induction sample term with
  | case1 => rfl
  | case2 => simp [percent, escape, sample]
  | case3 c rest ih =>
      rw [text_cons, text_cons, text_cons, escape, ih]
      cases sign : isSign c with
      | true => simp [folding.char_of_sign c sign, sample]
      | false =>
          obtain ⟨d, tail, folded⟩ := List.exists_cons_of_ne_nil (folding.char_ne_nil c)
          have literal := folding.isLiteral_char c sign
          rw [folded] at literal ⊢
          simp [sample, sample_append_of_literal (isLiteral_cons.mp literal).2]
  | case4 rest ih => simp [percent, sample, ih]
  | case5 rest ih => simp [percent, one, sample, ih]
  | case6 c rest last backslash run single ih =>
      have literal := isSign_eq_false_of_sample last backslash run single
      rw [text_cons, text_cons, sample_append_of_literal (folding.isLiteral_char c literal), ih]

/-- The pattern of a term finds the term itself, letter case ignored, in all texts exactly when no
character of the term is a sign. -/
theorem fits_containsPattern_iff {term : List Char} :
    (∀ text, folding.fits text (containsPattern term) = true ↔
      folding.text term <:+: folding.text text) ↔ IsLiteral term := by
  constructor
  · intro finds
    have found : folding.fits (sample term) (containsPattern term) = true := by
      rw [fits, text_containsPattern, text_sample]
      exact fitsPattern_sample (folding.text term)
    have contained := (finds (sample term)).mp found
    rw [text_sample] at contained
    exact folding.isLiteral_text_iff.mp (isLiteral_of_isInfix_sample contained)
  · intro literal text
    rw [fits, text_containsPattern]
    exact fitsPattern_containsPattern (folding.isLiteral_text_iff.mpr literal) _

end Folding

end AuditTrail.Sql
