import AuditTrail.Proofs.Query.Condition
import AuditTrail.Proofs.Query.LookBack
import AuditTrail.Proofs.Query.Negation
import AuditTrail.Proofs.Query.Origin

/-!
# Plain terms

Tokens without NOT and without colons can be read by either translator.  Both go through them step
by step with the same pending joiner, so the terms of a text search and the conditions on columns
look for the same and are joined alike.  A term for a column among such tokens is one more
condition.  It leaves the others joined as they were unless it stands behind OR: then it takes that
joiner, and the term behind it is joined by AND.
-/

namespace AuditTrail.Query

open Text

/-- A token that both translators can read: it is not NOT, it has no colon, and unless it is blank
or a joining keyword there is something in it to search for. -/
structure IsPlain (token : List Char) : Prop where
  unnegated : keyword? (trim token) ≠ some .not
  colonless : ':' ∉ token
  searchable : trim token ≠ [] → Joiner.ofWord? (trim token) = none →
    escapeTerm (unquote token) ≠ []

instance (token : List Char) : Decidable (IsPlain token) :=
  decidable_of_iff (keyword? (trim token) ≠ some .not ∧ ':' ∉ token ∧
      (trim token ≠ [] → Joiner.ofWord? (trim token) = none → escapeTerm (unquote token) ≠ []))
    ⟨fun ⟨unnegated, colonless, searchable⟩ => ⟨unnegated, colonless, searchable⟩,
      fun ⟨unnegated, colonless, searchable⟩ => ⟨unnegated, colonless, searchable⟩⟩

/-- A term of a text search and a condition without a column that look for the same and are joined
alike. -/
structure AreAlike (term : Term) (condition : Condition) : Prop where
  column_eq : condition.column = none
  text_eq : term.text = escapeTerm condition.term
  or_iff : term.joiner.sign = '|' ↔ condition.operator = some Joiner.or.word
  and_iff : term.joiner.sign = '&' ↔ condition.operator = some Joiner.and.word

/-- The parts of the text search that conditions without columns amount to: what each of them looks
for, behind the sign of its joiner if it follows another one. -/
def searchParts : List Condition → List (List Char)
  | [] => []
  | first :: rest => escapeTerm first.term ::
      rest.flatMap fun next => [[next.joiner.sign], escapeTerm next.term]

/-- The term that looks for the same as a condition. -/
def Condition.asTerm (condition : Condition) : Term :=
  ⟨condition.joiner, false, searchWords condition.term⟩

theorem keyword?_eq_none_of_ofWord? {word : List Char} (unjoined : Joiner.ofWord? word = none)
    (unnegated : keyword? word ≠ some .not) : keyword? word = none := by
  rw [Joiner.ofWord?] at unjoined
  cases found : keyword? word with
  | none => rfl
  | some keyword =>
      rw [found] at unjoined unnegated
      cases keyword with
      | and => cases unjoined
      | or => cases unjoined
      | not => exact absurd rfl unnegated

section Step

variable {token : List Char}

theorem IsPlain.not_isParted (plain : IsPlain token) (name value : List Char) :
    ¬ IsParted (trim token) name value := by
  intro parted
  have colon : ':' ∈ trim token := by
    rw [parted.text_eq]
    exact List.mem_append_right name List.mem_cons_self
  exact plain.colonless (trimBy_subset isBlank token colon)

theorem IsPlain.searchWords_ne (plain : IsPlain token) (filled : trim token ≠ [])
    (unjoined : Joiner.ofWord? (trim token) = none) :
    (searchWords (unquote token)).isEmpty = false := by
  rw [← lexemes_isEmpty, List.isEmpty_eq_false_iff]
  exact plain.searchable filled unjoined

/-- A plain token that is neither blank nor a joining keyword is a term without a column. -/
theorem IsPlain.ofToken (plain : IsPlain token) (filled : trim token ≠ [])
    (unjoined : Joiner.ofWord? (trim token) = none) :
    Part.ofToken token = .free (unquote token) := by
  have left : unquote token ≠ [] := by
    intro nothing
    have words := plain.searchWords_ne filled unjoined
    rw [nothing] at words
    cases words
  have whole : splitColumn? (trim token) = none := by
    by_contra split
    obtain ⟨⟨name, term⟩, split⟩ := Option.ne_none_iff_exists'.mp split
    obtain ⟨value, parted, _⟩ := splitColumn?_eq_some_iff.mp split
    exact plain.not_isParted name value parted
  rw [← ofToken_trim, ofToken_of_term (trim_trim token) filled unjoined, whole, unquote_trim,
    if_neg (by simpa using left)]

/-- The text search goes on behind a plain token as the translator of conditions does. -/
theorem IsPlain.termsAfter_cons (plain : IsPlain token) (pending : Joiner)
    (rest : List (List Char)) :
    termsAfter pending (token :: rest) =
      ((Part.ofToken token).made? pending).toList.map Condition.asTerm ++
        termsAfter ((Part.ofToken token).next pending) rest := by
  cases known : Joiner.ofWord? (trim token) with
  | some joiner =>
      rw [ofToken_of_joiner known]
      exact termsAfter_joiner known
  | none =>
      have unkeyed := keyword?_eq_none_of_ofWord? known plain.unnegated
      rw [termsAfter_operand unkeyed]
      by_cases blank : trim token = []
      · have nothing := escapeTerm_unquote_of_blank blank
        rw [escapeTerm, ← List.isEmpty_iff, lexemes_isEmpty] at nothing
        rw [if_pos nothing, ← ofToken_trim, blank]
        rfl
      · have joined : Condition.joiner ⟨none, unquote token, some pending.word⟩ = pending :=
          Condition.joiner_eq rfl
        rw [if_neg (by simp [plain.searchWords_ne blank known]), plain.ofToken blank known,
          Part.made?, Option.toList_some, List.map_singleton, Condition.asTerm, joined]
        rfl

end Step

/-- Both translators make the same of plain tokens. -/
theorem map_asTerm_conditionsAfter {tokens : List (List Char)}
    (plain : ∀ token ∈ tokens, IsPlain token) (pending : Joiner) :
    (conditionsAfter pending (tokens.map Part.ofToken)).map Condition.asTerm =
      termsAfter pending tokens := by
  induction tokens generalizing pending with
  | nil => rfl
  | cons token rest ih =>
      have later := fun other member => plain other (List.mem_cons_of_mem token member)
      rw [(plain token List.mem_cons_self).termsAfter_cons, List.map_cons, conditionsAfter_cons,
        List.map_append, ih later]

theorem column_of_mem_conditionsAfter {tokens : List (List Char)}
    (plain : ∀ token ∈ tokens, IsPlain token) {pending : Joiner} {condition : Condition}
    (member : condition ∈ conditionsAfter pending (tokens.map Part.ofToken)) :
    condition.column = none := by
  induction tokens generalizing pending with
  | nil => cases member
  | cons token rest ih =>
      rw [List.map_cons, conditionsAfter_cons, List.mem_append, Option.mem_toList] at member
      rcases member with made | later
      · have asks := asks_of_made? made
        generalize condition.column = column, condition.term = term at asks
        cases asks with
        | free => rfl
        | named _ parted => exact absurd parted ((plain token List.mem_cons_self).not_isParted _ _)
      · exact ih (fun other listed => plain other (List.mem_cons_of_mem token listed)) later

theorem areAlike_asTerm {condition : Condition} (free : condition.column = none)
    (joined : condition.IsJoined) : AreAlike condition.asTerm condition := by
  obtain ⟨joiner, operator⟩ := joined
  have same := Condition.joiner_eq operator
  have alike (other : Joiner) :
      joiner.sign = other.sign ↔ some joiner.word = some other.word := by
    cases joiner <;> cases other <;> decide
  exact {
    column_eq := free
    text_eq := rfl
    or_iff := by rw [Condition.asTerm, same, operator]; exact alike .or
    and_iff := by rw [Condition.asTerm, same, operator]; exact alike .and }

theorem followingText_map_asTerm (conditions : List Condition) :
    followingText (conditions.map Condition.asTerm) =
      (conditions.flatMap fun next => [[next.joiner.sign], escapeTerm next.term]).flatMap
        fun part => [' '] ++ part := by
  induction conditions with
  | nil => rfl
  | cons next rest ih =>
      rw [List.map_cons, followingText, ih, List.flatMap_cons, List.flatMap_append]
      simp [Condition.asTerm, Term.text, escapeTerm]

theorem expressionText_map_asTerm (conditions : List Condition) :
    expressionText (conditions.map Condition.asTerm) = join [' '] (searchParts conditions) := by
  cases conditions with
  | nil => rfl
  | cons first rest =>
      rw [List.map_cons, expressionText, followingText_map_asTerm, searchParts, join_cons]
      rfl

section Pending

variable {token : List Char}

theorem next_of_isEffective (effective : IsEffective token) (pending : Joiner) :
    (Part.ofToken token).next pending = .and := by
  have fits := fits_ofToken token
  generalize Part.ofToken token = part at fits
  cases part with
  | joiner => exact absurd effective (not_isEffective_of_joiner fits)
  | nothing => exact absurd effective fits.2
  | unknown => exact absurd effective fits.2
  | named => rfl
  | free => rfl

theorem next_of_not_isEffective (idle : ¬ IsEffective token) (pending : Joiner) :
    (Part.ofToken token).next pending = (Joiner.ofWord? (trim token)).getD pending := by
  have fits := fits_ofToken token
  generalize Part.ofToken token = part at fits
  cases part with
  | joiner found => rw [show Joiner.ofWord? (trim token) = some found from fits]; rfl
  | nothing => rw [fits.1]; rfl
  | unknown => rw [fits.1]; rfl
  | named column term => exact absurd ⟨_, _, fits⟩ idle
  | free term => exact absurd ⟨_, _, fits⟩ idle

/-- Behind tokens that ask for nothing the last joining keyword is pending. -/
theorem foldl_next_of_not_isEffective {since : List (List Char)}
    (idle : ∀ token ∈ since, ¬ IsEffective token) (pending : Joiner) :
    (since.map Part.ofToken).foldl Part.next pending = (joiners since).getLast?.getD pending := by
  induction since generalizing pending with
  | nil => rfl
  | cons token rest ih =>
      have later := fun other member => idle other (List.mem_cons_of_mem token member)
      rw [List.map_cons, List.foldl_cons, ih later,
        next_of_not_isEffective (idle token List.mem_cons_self), joiners, joiners,
        List.filterMap_cons]
      cases Joiner.ofWord? (trim token) with
      | none => rfl
      | some found => rw [List.getLast?_cons]; rfl

/-- The joiner that the translator carries along is the one that is found by looking back. -/
theorem IsPending.eq_pendingBehind {tokens : List (List Char)} {joiner : Joiner}
    (known : IsPending tokens joiner) : joiner = pendingBehind tokens := by
  obtain ⟨front, since, rfl, effective, idle, rfl⟩ := known
  have begun : pendingBehind front = .and := by
    induction front using List.reverseRecOn with
    | nil => rfl
    | append_singleton front last _ =>
        have asks := effective last (by simp)
        rw [pendingBehind, List.map_append, List.foldl_append]
        exact next_of_isEffective asks _
  rw [pendingBehind, List.map_append, List.foldl_append,
    foldl_next_of_not_isEffective idle]
  rw [pendingBehind] at begun
  rw [begun]

/-- Some joiner is found by looking back from behind any tokens. -/
theorem exists_isPending (tokens : List (List Char)) : ∃ joiner, IsPending tokens joiner := by
  induction tokens using List.reverseRecOn with
  | nil => exact ⟨_, isPending_nil⟩
  | append_singleton front last ih =>
      obtain ⟨pending, known⟩ := ih
      by_cases effective : IsEffective last
      · exact ⟨_, isPending_of_effective effective⟩
      · cases keyword : Joiner.ofWord? (trim last) with
        | none => exact ⟨_, known.idle keyword effective⟩
        | some joiner => exact ⟨_, known.joiner keyword⟩

end Pending

/-- A term for a column takes the joiner that is pending, and parts the conditions before it from
those behind it. -/
theorem conditions_insert {filter column term : List Char} {front : List (List Char)}
    {joiner : Joiner} (asks : Asks filter (some column) term) (waiting : IsPending front joiner)
    (back : List (List Char)) :
    conditions (front ++ filter :: back) = conditions front ++
      ⟨some column, term, some joiner.word⟩ :: conditions back := by
  cases asks with
  | named _ parted known =>
      rw [conditions_append, List.map_cons, conditionsAfter_cons, ofToken_of_parted parted known,
        known, waiting.eq_pendingBehind]
      rfl

/-- Plain tokens make as many terms of a text search as conditions on columns, which look for the
same one by one and are joined alike, so the text of the search can be told from the conditions.
A term for a column takes the joiner that is pending, and those behind it are joined as they are
alone.  If AND is pending, all of them stay joined as they were. -/
theorem plain_terms_read_alike {tokens : List (List Char)}
    (plain : ∀ token ∈ tokens, IsPlain token) :
    List.Forall₂ AreAlike (terms tokens) (conditions tokens) ∧
      fullText tokens = join [' '] (searchParts (conditions tokens)) ∧
      ∀ front back filter column term, tokens = front ++ back →
        Asks filter (some column) term →
        (∃ joiner, IsPending front joiner ∧ conditions (front ++ filter :: back) =
          conditions front ++ ⟨some column, term, some joiner.word⟩ :: conditions back) ∧
        (IsPending front .and → conditions front ++ conditions back = conditions tokens) := by
  have made : (conditions tokens).map Condition.asTerm = terms tokens :=
    map_asTerm_conditionsAfter plain .and
  refine ⟨?_, ?_, ?_⟩
  · rw [← made, List.forall₂_map_left_iff, List.forall₂_same]
    intro condition member
    exact areAlike_asTerm (column_of_mem_conditionsAfter plain member)
      (isCanonical_of_mem_conditionsAfter member).joined
  · rw [fullText, ← made, expressionText_map_asTerm]
  · rintro front back filter column term rfl asks
    obtain ⟨joiner, pending⟩ := exists_isPending front
    refine ⟨⟨joiner, pending, conditions_insert asks pending back⟩, fun waiting => ?_⟩
    rw [conditions_append, ← waiting.eq_pendingBehind]
    rfl

/-- Plain tokens behind which AND is pending. -/
def plainFront : List (List Char) := ["OR", "a", "AND", "or", " ", "b-1"].map String.toList

/-- Plain tokens that begin with a phrase. -/
def plainBack : List (List Char) := ["'c d'", "Or", "(e)"].map String.toList

theorem plain_terms_read_alike_mixed :
    (∀ token ∈ plainFront ++ plainBack, IsPlain token) ∧
      Asks "Status:x".toList (some "status".toList) "x".toList ∧ IsPending plainFront .and ∧
      List.Forall₂ AreAlike (terms (plainFront ++ plainBack))
        (conditions (plainFront ++ plainBack)) ∧
      fullText (plainFront ++ plainBack) =
        join [' '] (searchParts (conditions (plainFront ++ plainBack))) ∧
      (∃ joiner, IsPending plainFront joiner ∧
        conditions (plainFront ++ "Status:x".toList :: plainBack) = conditions plainFront ++
          ⟨some "status".toList, "x".toList, some joiner.word⟩ :: conditions plainBack) ∧
      conditions plainFront ++ conditions plainBack = conditions (plainFront ++ plainBack) := by
  have plain : ∀ token ∈ plainFront ++ plainBack, IsPlain token := by decide +kernel
  have named : (Part.ofToken "Status:x".toList).made? .and =
      some ⟨some "status".toList, "x".toList, some "AND".toList⟩ := by decide +kernel
  have asks : Asks "Status:x".toList (some "status".toList) "x".toList :=
    asks_of_made? named
  have free : (Part.ofToken "b-1".toList).made? .and =
      some ⟨none, "b-1".toList, some "AND".toList⟩ := by decide +kernel
  have waiting : IsPending (["OR", "a", "AND", "or", " "].map String.toList ++ ["b-1".toList])
      .and := isPending_of_effective ⟨_, _, asks_of_made? free⟩
  obtain ⟨alike, text, insert⟩ := plain_terms_read_alike plain
  obtain ⟨among, kept⟩ := insert _ _ _ _ _ rfl asks
  exact ⟨plain, asks, waiting, alike, text, among, kept waiting⟩

/-- Behind OR a term for a column takes the joiner of the term that follows. -/
theorem plain_terms_read_alike_parted :
    (∀ token ∈ ["a", "OR", "b"].map String.toList, IsPlain token) ∧
      Asks "status:x".toList (some "status".toList) "x".toList ∧
      conditions (["a", "OR", "b"].map String.toList) =
        [⟨none, "a".toList, some "AND".toList⟩, ⟨none, "b".toList, some "OR".toList⟩] ∧
      conditions (["a", "OR", "status:x", "b"].map String.toList) =
        [⟨none, "a".toList, some "AND".toList⟩,
          ⟨some "status".toList, "x".toList, some "OR".toList⟩,
          ⟨none, "b".toList, some "AND".toList⟩] := by
  have named : (Part.ofToken "status:x".toList).made? .and =
      some ⟨some "status".toList, "x".toList, some "AND".toList⟩ := by decide +kernel
  exact ⟨by decide +kernel, asks_of_made? named, by decide +kernel, by decide +kernel⟩

example : fullText (["OR", "a", "AND", "or", " ", "b-1", "'c d'", "(e)"].map String.toList) =
    "a:* | b-1:* & c:*&d:* & e:*".toList := by
  decide +kernel

end AuditTrail.Query
