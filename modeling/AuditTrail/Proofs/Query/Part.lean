import AuditTrail.Proofs.Column
import AuditTrail.Proofs.Text.Blank
import AuditTrail.Query.Condition
import Mathlib.Data.List.TakeWhile

/-!
# What a token asks for

A token is taken without the blanks around it.  It is effective if it asks for something: for a
column to contain a value, where its first colon parts a column's name from the value, or without
such a colon for any column to contain it.  Joining keywords, terms for unknown columns and tokens
of which nothing is left ask for nothing.
-/

namespace AuditTrail.Query

open Text

/-- A token that its first colon parts into a name and a value, neither of them empty. -/
structure IsParted (token name value : List Char) : Prop where
  text_eq : token = name ++ ':' :: value
  first : ':' ∉ name
  name_ne : name ≠ []
  value_ne : value ≠ []

/-- The column, if one is named, and the term that a token asks for. -/
inductive Asks (raw : List Char) : Option (List Char) → List Char → Prop
  | named {name value : List Char} {column : Column}
      (plain : Joiner.ofWord? (trim raw) = none) (parted : IsParted (trim raw) name value)
      (known : lower name = column.name.toList) :
      Asks raw (some (lower name)) (unquote value)
  | free (plain : Joiner.ofWord? (trim raw) = none)
      (whole : ∀ name value, ¬ IsParted (trim raw) name value)
      (filled : unquote (trim raw) ≠ []) :
      Asks raw none (unquote (trim raw))

/-- A token that asks for something. -/
def IsEffective (raw : List Char) : Prop := ∃ column term, Asks raw column term

theorem IsParted.takeWhile_eq {token name value : List Char} (parted : IsParted token name value) :
    token.takeWhile (· != ':') = name ∧ token.dropWhile (· != ':') = ':' :: value := by
  obtain ⟨rfl, first, _, _⟩ := parted
  have passed : ∀ c ∈ name, (c != ':') = true := by
    intro c member
    rw [bne_iff_ne]
    rintro rfl
    exact first member
  rw [List.takeWhile_append_of_pos passed, List.dropWhile_append_of_pos passed]
  simp

/-- A token is split exactly where its first colon parts it. -/
theorem splitColumn?_eq_some_iff {token name term : List Char} :
    splitColumn? token = some (name, term) ↔
      ∃ value, IsParted token name value ∧ unquote value = term := by
  constructor
  · intro split
    have whole := List.takeWhile_append_dropWhile (p := (· != ':')) (l := token)
    have front : ':' ∉ token.takeWhile (· != ':') := fun member => by
      simpa using List.mem_takeWhile_imp member
    rw [splitColumn?] at split
    cases behind : token.dropWhile (· != ':') with
    | nil =>
        rw [behind] at split
        cases split
    | cons c value =>
        have stops := List.head?_dropWhile_not (· != ':') token
        rw [behind] at stops split whole
        obtain rfl : c = ':' := by simpa using stops
        by_cases empty : (token.takeWhile (· != ':')).isEmpty || value.isEmpty
        · simp only [empty, ↓reduceIte, reduceCtorEq] at split
        · simp only [empty, Bool.false_eq_true, ↓reduceIte, Option.some.injEq,
            Prod.mk.injEq] at split
          obtain ⟨rfl, rfl⟩ := split
          rw [Bool.or_eq_true, not_or, List.isEmpty_iff, List.isEmpty_iff] at empty
          exact ⟨value, ⟨whole.symm, front, empty.1, empty.2⟩, rfl⟩
  · rintro ⟨value, parted, rfl⟩
    obtain ⟨front, behind⟩ := parted.takeWhile_eq
    have filled : (name.isEmpty || value.isEmpty) = false := by
      simp [parted.name_ne, parted.value_ne]
    rw [splitColumn?, front, behind]
    simp only [filled, Bool.false_eq_true, ↓reduceIte]

theorem not_isParted_of_splitColumn? {token : List Char} (whole : splitColumn? token = none)
    (name value : List Char) : ¬ IsParted token name value := by
  intro parted
  rw [splitColumn?_eq_some_iff.mpr ⟨value, parted, rfl⟩] at whole
  cases whole

/-- A token with a character that is its own upper case and stands in no keyword is none. -/
theorem keyword?_eq_none {token : List Char} {c : Char} (member : c ∈ token)
    (own : c ∈ upperChar c) (absent : c ∉ ['A', 'N', 'D', 'O', 'R', 'T']) :
    keyword? token = none := by
  have kept : c ∈ upper token := List.mem_flatMap.mpr ⟨c, member, own⟩
  have apart : ∀ word ⊆ ['A', 'N', 'D', 'O', 'R', 'T'], (upper token == word) = false := by
    intro word letters
    rw [beq_eq_false_iff_ne]
    rintro rfl
    exact absent (letters kept)
  rw [keyword?, apart _ (by decide), apart _ (by decide), apart _ (by decide)]
  rfl

/-- What is neither blank nor a keyword is a term, with a column if one is split off. -/
theorem ofToken_of_term {token : List Char} (trimmed : trim token = token) (filled : token ≠ [])
    (plain : Joiner.ofWord? token = none) :
    Part.ofToken token =
      match splitColumn? token with
      | some (name, term) =>
        match Column.ofName? name with
        | some column => .named column term
        | none => .unknown name
      | none => if (unquote token).isEmpty then .nothing else .free (unquote token) := by
  have nonempty : token.isEmpty = false := by simpa using filled
  rw [Part.ofToken, trimmed]
  cases splitColumn? token with
  | none => simp only [nonempty, plain, Bool.false_eq_true, ↓reduceIte]
  | some pair =>
      obtain ⟨name, term⟩ := pair
      cases found : Column.ofName? name <;>
        simp only [nonempty, plain, found, Bool.false_eq_true, ↓reduceIte]

theorem ofToken_trim (raw : List Char) : Part.ofToken (trim raw) = Part.ofToken raw := by
  rw [Part.ofToken, Part.ofToken, trim_trim]

/-- A token that is split behind the name of a column is a term for this column. -/
theorem ofToken_of_parted {raw name value : List Char} {column : Column}
    (parted : IsParted (trim raw) name value) (known : lower name = column.name.toList) :
    Part.ofToken raw = .named column (unquote value) := by
  have colon : ':' ∈ trim raw := by
    rw [parted.text_eq]
    exact List.mem_append_right name List.mem_cons_self
  have plain : Joiner.ofWord? (trim raw) = none := by
    rw [Joiner.ofWord?, keyword?_eq_none colon (by decide +kernel) (by decide)]
  have found : Column.ofName? name = some column :=
    Column.ofExactName?_eq_some_iff.mpr known.symm
  have split := splitColumn?_eq_some_iff.mpr ⟨value, parted, rfl⟩
  rw [← ofToken_trim, ofToken_of_term (trim_trim raw) (List.ne_nil_of_mem colon) plain, split]
  simp only [found]

/-- Whether a part says of a token what it asks for. -/
def Part.Fits (raw : List Char) : Part → Prop
  | .joiner found => Joiner.ofWord? (trim raw) = some found
  | .named column term => Asks raw (some column.name.toList) term
  | .free term => Asks raw none term
  | .nothing | .unknown _ => Joiner.ofWord? (trim raw) = none ∧ ¬ IsEffective raw

theorem not_isEffective_of_joiner {raw : List Char} {joiner : Joiner}
    (known : Joiner.ofWord? (trim raw) = some joiner) : ¬ IsEffective raw := by
  rintro ⟨_, _, asks⟩
  cases asks with
  | named plain => cases known.symm.trans plain
  | free plain => cases known.symm.trans plain

theorem not_isEffective_of_blank {raw : List Char} (blank : trim raw = []) :
    ¬ IsEffective raw := by
  rintro ⟨_, _, asks⟩
  cases asks with
  | named _ parted =>
      have text := parted.text_eq
      rw [blank] at text
      simp at text
  | free _ _ filled =>
      rw [blank] at filled
      exact filled rfl

theorem not_isEffective_of_parted {raw name value : List Char}
    (parted : IsParted (trim raw) name value) (unknown : Column.ofName? name = none) :
    ¬ IsEffective raw := by
  rintro ⟨_, _, asks⟩
  cases asks with
  | free _ whole => exact whole name value parted
  | @named other _ column _ again known =>
      obtain rfl : other = name := again.takeWhile_eq.1.symm.trans parted.takeWhile_eq.1
      rw [Column.ofName?, Column.ofExactName?_eq_some_iff.mpr known.symm] at unknown
      cases unknown

theorem not_isEffective_of_whole {raw : List Char}
    (whole : ∀ name value, ¬ IsParted (trim raw) name value)
    (nothing : unquote (trim raw) = []) : ¬ IsEffective raw := by
  rintro ⟨_, _, asks⟩
  cases asks with
  | named _ parted => exact whole _ _ parted
  | free _ _ filled => exact filled nothing

theorem ofToken_of_joiner {raw : List Char} {joiner : Joiner}
    (known : Joiner.ofWord? (trim raw) = some joiner) : Part.ofToken raw = .joiner joiner := by
  have filled : (trim raw).isEmpty = false := by
    cases blank : trim raw with
    | nil =>
        rw [blank] at known
        cases known
    | cons => rfl
  rw [Part.ofToken]
  simp only [filled, known, Bool.false_eq_true, ↓reduceIte]

theorem fits_ofToken_of_term {raw : List Char} (filled : trim raw ≠ [])
    (plain : Joiner.ofWord? (trim raw) = none) : (Part.ofToken raw).Fits raw := by
  rw [← ofToken_trim, ofToken_of_term (trim_trim raw) filled plain]
  cases split : splitColumn? (trim raw) with
  | some pair =>
      obtain ⟨name, term⟩ := pair
      obtain ⟨value, parted, rfl⟩ := splitColumn?_eq_some_iff.mp split
      cases found : Column.ofName? name with
      | none =>
          simp only [found]
          exact ⟨plain, not_isEffective_of_parted parted found⟩
      | some column =>
          have known := Column.ofExactName?_eq_some_iff.mp found
          simp only [found, Part.Fits, known]
          exact Asks.named plain parted known.symm
  | none =>
      have whole := not_isParted_of_splitColumn? split
      by_cases nothing : unquote (trim raw) = []
      · simp only [nothing, List.isEmpty_nil, ↓reduceIte]
        exact ⟨plain, not_isEffective_of_whole whole nothing⟩
      · have left : (unquote (trim raw)).isEmpty = false := by simpa using nothing
        simp only [left, Bool.false_eq_true, ↓reduceIte]
        exact Asks.free plain whole nothing

/-- The part of a token says what it asks for. -/
theorem fits_ofToken (raw : List Char) : (Part.ofToken raw).Fits raw := by
  cases known : Joiner.ofWord? (trim raw) with
  | some joiner =>
      rw [ofToken_of_joiner known]
      exact known
  | none =>
      by_cases blank : trim raw = []
      · rw [← ofToken_trim, blank]
        exact ⟨known, not_isEffective_of_blank blank⟩
      · exact fits_ofToken_of_term blank known

end AuditTrail.Query
