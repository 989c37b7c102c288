import AuditTrail.Proofs.Column
import AuditTrail.Proofs.Query.Condition
import AuditTrail.Proofs.Query.Part
import AuditTrail.Proofs.Query.Specific

/-!
# Conditions written as a search text

A condition is written as its term in double quotes, behind the name of its column and a colon if
it names one, and conditions are joined by their operators.  Making the text ready gives the
conditions back: the quotation marks keep blanks, colons, parentheses and keywords of the terms
from being read as anything else.
-/

namespace AuditTrail.Query

open Text

namespace Condition

/-- The written form of a condition. -/
def written (condition : Condition) : List Char :=
  (condition.column.elim [] fun name => name ++ [':']) ++ ('"' :: condition.term ++ ['"'])

/-- The condition with the name of its column in lower case. -/
def lowered (condition : Condition) : Condition :=
  { condition with column := condition.column.map (List.map Char.toLower) }

/-- A condition whose written form can be read: its column exists, and its term does not interfere
with the quotation marks around it or, without a column, pass for one. -/
structure IsWritable (condition : Condition) : Prop where
  named : ∀ name ∈ condition.column, ∃ column : Column,
    name.map Char.toLower = column.name.toList
  unquoted : '"' ∉ condition.term
  front : condition.term.head? ≠ some '\''
  back : condition.term.getLast? ≠ some '\''
  free : condition.column = none → condition.term ≠ [] ∧ ':' ∉ condition.term

end Condition

/-- The conditions written as one text, joined by their operators. -/
def writtenText : List Condition → List Char
  | [] => []
  | first :: rest => first.written ++ rest.flatMap fun next =>
      ' ' :: next.operator.getD [] ++ ' ' :: next.written

variable {condition : Condition}

theorem not_isQuote_of_ends {c : Char} {term : List Char} (unquoted : '"' ∉ term)
    (inside : c ∈ term) (other : c ≠ '\'') : isQuote c = false := by
  have plain : c ≠ '"' := fun same => unquoted (same ▸ inside)
  simp [isQuote, plain, other]

/-- The quotation marks around a term are taken off, and nothing else. -/
theorem unquote_quoted (writable : condition.IsWritable) :
    unquote ('"' :: condition.term ++ ['"']) = condition.term := by
  have mark : ∀ c ∈ ['"'], isQuote c = true := List.forall_mem_singleton.mpr (by decide)
  have trimmed : trim ('"' :: condition.term ++ ['"']) = '"' :: condition.term ++ ['"'] := by
    apply trimBy_eq_self
    · rintro c ⟨⟩
      decide
    · intro c last
      rw [List.getLast?_concat] at last
      cases last
      decide
  rw [unquote, trimmed]
  refine (trimBy_append_append condition.term mark mark).trans ?_
  apply trimBy_eq_self
  · intro c first
    refine not_isQuote_of_ends writable.unquoted (List.mem_of_head? first) fun same => ?_
    exact writable.front (same ▸ first)
  · intro c last
    refine not_isQuote_of_ends writable.unquoted (List.mem_of_getLast? last) fun same => ?_
    exact writable.back (same ▸ last)

theorem isSolid_term (writable : condition.IsWritable) :
    IsSolid ('"' :: condition.term ++ ['"']) :=
  isSolid_quoted (by decide) (by decide) writable.unquoted

theorem isSolid_name {name : List Char} {column : Column}
    (variant : name.map Char.toLower = column.name.toList) : IsSolid (name ++ [':']) := by
  apply isSolid_of_plain
  intro c member
  rcases List.mem_append.mp member with inside | colon
  · obtain ⟨_, unquoted, filled, _⟩ := Column.word_of_variant variant inside
    exact ⟨unquoted, filled⟩
  · rw [List.mem_singleton.mp colon]
    decide

theorem isSolid_written (writable : condition.IsWritable) : IsSolid condition.written := by
  rw [Condition.written]
  cases named : condition.column with
  | none => exact isSolid_term writable
  | some name =>
      obtain ⟨column, variant⟩ := writable.named name named
      exact (isSolid_name variant).append (isSolid_term writable)

theorem getLast?_written (condition : Condition) : condition.written.getLast? = some '"' := by
  rw [Condition.written, ← List.append_assoc, List.getLast?_concat]

theorem isBlank_head_written (writable : condition.IsWritable) :
    ∀ c ∈ condition.written.head?, isBlank c = false := by
  rw [Condition.written]
  cases named : condition.column with
  | none =>
      rintro c ⟨⟩
      decide
  | some name =>
      obtain ⟨column, variant⟩ := writable.named name named
      cases name with
      | nil =>
          rintro c ⟨⟩
          decide
      | cons letter rest =>
          rintro c ⟨⟩
          exact (Column.word_of_variant variant List.mem_cons_self).2.2.1

theorem trim_written (writable : condition.IsWritable) :
    trim condition.written = condition.written := by
  apply trimBy_eq_self (isBlank_head_written writable)
  rw [getLast?_written]
  rintro c ⟨⟩
  decide

theorem ofWord?_written (condition : Condition) : Joiner.ofWord? condition.written = none := by
  have quote : '"' ∈ condition.written := List.mem_of_getLast? (getLast?_written condition)
  rw [Joiner.ofWord?, keyword?_eq_none quote (by decide +kernel) (by decide)]

theorem written_ne_nil (condition : Condition) : condition.written ≠ [] := by
  intro empty
  have last := getLast?_written condition
  rw [empty] at last
  cases last

theorem ofToken_free (writable : condition.IsWritable) (free : condition.column = none) :
    Part.ofToken condition.written = .free condition.term := by
  obtain ⟨nonempty, colonless⟩ := writable.free free
  have text : condition.written = '"' :: condition.term ++ ['"'] := by
    rw [Condition.written, free]
    rfl
  have whole : splitColumn? condition.written = none := by
    have passed : ∀ c ∈ condition.written, (c != ':') = true := by
      rw [text]
      intro c member
      rw [bne_iff_ne]
      rintro rfl
      simp [colonless] at member
    rw [splitColumn?, List.dropWhile_eq_nil_iff.mpr passed]
  have kept : condition.term.isEmpty = false := by simpa using nonempty
  rw [ofToken_of_term (trim_written writable) (written_ne_nil condition)
    (ofWord?_written condition), whole, text, unquote_quoted writable]
  simp only [kept, Bool.false_eq_true, ↓reduceIte]

theorem ofToken_named (writable : condition.IsWritable) {name : List Char} {column : Column}
    (named : condition.column = some name)
    (variant : name.map Char.toLower = column.name.toList) :
    Part.ofToken condition.written = .named column condition.term := by
  have parted : IsParted condition.written name ('"' :: condition.term ++ ['"']) := by
    refine ⟨?_, fun colon => (Column.word_of_variant variant colon).2.2.2 rfl,
      Column.ne_nil_of_variant variant, by simp⟩
    rw [Condition.written, named, Option.elim_some, List.append_assoc]
    rfl
  rw [← trim_written writable] at parted
  rw [ofToken_of_parted parted (Column.lower_eq_name_iff.mpr variant), unquote_quoted writable]

/-- A written condition is read as the condition with its column in lower case, whatever its
operator was. -/
theorem conditionsAfter_written (writable : condition.IsWritable) (pending : Joiner)
    (rest : List Part) :
    conditionsAfter pending (Part.ofToken condition.written :: rest) =
      { condition.lowered with operator := some pending.word } :: conditionsAfter .and rest := by
  cases named : condition.column with
  | none =>
      rw [ofToken_free writable named, conditionsAfter, Condition.lowered, named]
      rfl
  | some name =>
      obtain ⟨column, variant⟩ := writable.named name named
      rw [ofToken_named writable named variant, conditionsAfter, Condition.lowered, named,
        Option.map_some, variant]

theorem ofToken_joiner (joiner : Joiner) : Part.ofToken joiner.word = .joiner joiner := by
  cases joiner <;> decide +kernel

/-- The tokens of the conditions behind the first, each behind its operator. -/
def followingTokens (conditions : List Condition) : List (List Char) :=
  conditions.flatMap fun next => [next.operator.getD [], next.written]

theorem writtenText_cons (first : Condition) (rest : List Condition) :
    writtenText (first :: rest) = join [' '] (first.written :: followingTokens rest) := by
  rw [join_cons, writtenText, followingTokens, List.flatMap_assoc]
  simp

theorem isSolid_word (joiner : Joiner) : IsSolid joiner.word := by
  have letters : joiner.word.all fun c => !isQuote c && !isBlank c := by
    cases joiner <;> decide
  apply isSolid_of_plain
  intro c member
  simpa using List.all_eq_true.mp letters c member

theorem tokenize_writtenText {first : Condition} {rest : List Condition}
    (writable : ∀ condition ∈ first :: rest, condition.IsWritable)
    (joined : ∀ condition ∈ rest, condition.IsJoined) :
    tokenize (writtenText (first :: rest)) = first.written :: followingTokens rest := by
  rw [writtenText_cons]
  apply tokenize_join
  intro piece member
  have whole : ∀ condition ∈ first :: rest,
      IsSolid condition.written ∧ condition.written ≠ [] :=
    fun condition member => ⟨isSolid_written (writable condition member),
      written_ne_nil condition⟩
  rcases List.mem_cons.mp member with rfl | later
  · exact whole first List.mem_cons_self
  · obtain ⟨condition, listed, part⟩ := List.mem_flatMap.mp later
    rcases List.mem_cons.mp part with rfl | last
    · obtain ⟨joiner, same⟩ := joined condition listed
      rw [same]
      exact ⟨isSolid_word joiner, by cases joiner <;> simp [Joiner.word]⟩
    · rw [List.mem_singleton.mp last]
      exact whole condition (List.mem_cons_of_mem first listed)

theorem conditionsAfter_followingTokens {rest : List Condition}
    (writable : ∀ condition ∈ rest, condition.IsWritable)
    (joined : ∀ condition ∈ rest, condition.IsJoined) :
    conditionsAfter .and ((followingTokens rest).map Part.ofToken) =
      rest.map Condition.lowered := by
  induction rest with
  | nil => rfl
  | cons next rest ih =>
      obtain ⟨joiner, same⟩ := joined next List.mem_cons_self
      have later := ih
        (fun condition member => writable condition (List.mem_cons_of_mem next member))
        fun condition member => joined condition (List.mem_cons_of_mem next member)
      have parts : (followingTokens (next :: rest)).map Part.ofToken = .joiner joiner ::
          Part.ofToken next.written :: (followingTokens rest).map Part.ofToken := by
        rw [followingTokens, List.flatMap_cons, same]
        simp [ofToken_joiner, followingTokens]
      rw [parts, conditionsAfter,
        conditionsAfter_written (writable next List.mem_cons_self), later, List.map_cons, ← same]
      rfl

theorem isColumnSpecific_named {condition : Condition} (writable : condition.IsWritable)
    (named : condition.column.isSome) (rest : List Char) :
    isColumnSpecific (condition.written ++ rest) = true := by
  obtain ⟨name, given⟩ := Option.isSome_iff_exists.mp named
  obtain ⟨column, variant⟩ := writable.named name given
  have filled : name ≠ [] := Column.ne_nil_of_variant variant
  obtain ⟨front, last, rfl⟩ : ∃ front last, name = front ++ [last] :=
    ⟨_, _, (List.dropLast_append_getLast filled).symm⟩
  have word := (Column.word_of_variant variant (List.mem_append_right front
    (List.mem_singleton_self last))).1
  have text : condition.written ++ rest =
      front ++ last :: ':' :: '"' :: (condition.term ++ '"' :: rest) := by
    simp [Condition.written, given]
  rw [text]
  apply isColumnSpecific_append
  have mark : isBlank '"' = false := by decide
  simp [isColumnSpecific, word, mark]

theorem isColumnSpecific_writtenText {first : Condition} {rest : List Condition}
    (writable : ∀ condition ∈ first :: rest, condition.IsWritable)
    (named : ∃ condition ∈ first :: rest, condition.column.isSome) :
    isColumnSpecific (writtenText (first :: rest)) = true := by
  obtain ⟨condition, listed, column⟩ := named
  rw [writtenText]
  rcases List.mem_cons.mp listed with rfl | later
  · exact isColumnSpecific_named (writable condition listed) column _
  · obtain ⟨front, back, rfl⟩ := List.append_of_mem later
    rw [List.flatMap_append, List.flatMap_cons, ← List.append_assoc]
    apply isColumnSpecific_append
    rw [List.append_assoc]
    apply isColumnSpecific_append (' ' :: condition.operator.getD [])
    apply isColumnSpecific_cons
    exact isColumnSpecific_named (writable condition listed) column _

theorem getLast?_written_append (front : List Char) (closed : front.getLast? = some '"')
    (rest : List Condition) :
    (front ++ rest.flatMap fun next =>
      ' ' :: next.operator.getD [] ++ ' ' :: next.written).getLast? = some '"' := by
  induction rest generalizing front with
  | nil => rwa [List.flatMap_nil, List.append_nil]
  | cons next rest ih =>
      rw [List.flatMap_cons, ← List.append_assoc]
      apply ih
      have ends : ' ' :: next.operator.getD [] ++ ' ' :: next.written =
          (' ' :: next.operator.getD [] ++ [' ']) ++ next.written := by simp
      rw [ends, ← List.append_assoc, List.getLast?_append, getLast?_written]
      rfl

theorem trim_writtenText {first : Condition} {rest : List Condition}
    (writable : first.IsWritable) :
    trim (writtenText (first :: rest)) = writtenText (first :: rest) := by
  apply trimBy_eq_self
  · intro c head
    rw [writtenText, List.head?_append_of_ne_nil _ (written_ne_nil first)] at head
    exact isBlank_head_written writable c head
  · rw [writtenText, getLast?_written_append _ (getLast?_written first)]
    rintro c ⟨⟩
    decide

/-- Writable conditions of which one names a column are given back by the text that they are
written as, with the names of their columns in lower case. -/
theorem compile_writtenText {first : Condition} {rest : List Condition}
    (writable : ∀ condition ∈ first :: rest, condition.IsWritable)
    (named : ∃ condition ∈ first :: rest, condition.column.isSome)
    (leading : first.operator = some "AND".toList)
    (joined : ∀ condition ∈ rest, condition.operator = some "AND".toList ∨
      condition.operator = some "OR".toList) :
    compile (writtenText (first :: rest)) =
      ⟨true, [], (first :: rest).map Condition.lowered⟩ := by
  have leads := writable first List.mem_cons_self
  have follow : ∀ condition ∈ rest, condition.IsWritable :=
    fun condition member => writable condition (List.mem_cons_of_mem first member)
  have joiners : ∀ condition ∈ rest, condition.IsJoined := by
    intro condition member
    rcases joined condition member with same | same
    · exact ⟨.and, same⟩
    · exact ⟨.or, same⟩
  have filled : (writtenText (first :: rest)).isEmpty = false := by
    simp [writtenText, written_ne_nil]
  have read : conditions (tokenize (writtenText (first :: rest))) =
      (first :: rest).map Condition.lowered := by
    rw [tokenize_writtenText writable joiners, conditions, List.map_cons,
      conditionsAfter_written leads, conditionsAfter_followingTokens follow joiners, List.map_cons]
    congr 1
    rw [Condition.lowered, leading]
    rfl
  rw [compile]
  simp only [trim_writtenText leads, filled, isColumnSpecific_writtenText writable named, read,
    Bool.false_eq_true, ↓reduceIte]

/-- Terms with blanks, colons, parentheses, apostrophes and keywords inside. -/
theorem compile_writtenText_mixed :
    compile (writtenText [⟨some "User_ID".toList, "a: (b) AND it's".toList, some "AND".toList⟩,
        ⟨none, " or  )".toList, some "OR".toList⟩]) =
      ⟨true, [], [⟨some "user_id".toList, "a: (b) AND it's".toList, some "AND".toList⟩,
        ⟨none, " or  )".toList, some "OR".toList⟩]⟩ := by
  refine compile_writtenText ?writable ⟨_, List.mem_cons_self, rfl⟩ rfl ?joined
  case writable =>
    intro condition member
    rcases List.mem_pair.mp member with rfl | rfl
    · refine ⟨?_, by decide, by decide, by decide, fun free => nomatch free⟩
      rintro name ⟨⟩
      exact ⟨.userId, by decide⟩
    · refine ⟨?_, by decide, by decide, by decide, fun _ => ⟨by decide, by decide⟩⟩
      rintro name ⟨⟩
  case joined =>
    intro condition member
    rw [List.mem_singleton.mp member]
    exact .inr rfl

end AuditTrail.Query
