import AuditTrail.Proofs.Query.Origin
import AuditTrail.Proofs.Query.Specific
import AuditTrail.Proofs.Query.Written

/-!
# Texts with named columns

The classifier looks for a named column anywhere in a text, and the translator splits each token
at its first colon.  A column that the translator finds is one that the classifier sees, unless a
closing parenthesis stands right behind the colon: names of columns hold no quotation marks, so
neither a quotation mark nor a blank can come between the name and the beginning of the value.
-/

namespace AuditTrail.Query

open Text

/-- The character right behind the first colon of a token. -/
def behindColon? (token : List Char) : Option Char := (token.dropWhile (· != ':')).tail.head?

theorem IsLayout.isToken_of_mem {tokens : List (List Char)} {text token : List Char}
    (layout : IsLayout tokens text) (member : token ∈ tokens) : IsToken token := by
  induction layout with
  | nil => cases member
  | last whole =>
      rw [List.mem_singleton.mp member]
      exact whole
  | cons whole _ _ _ _ ih =>
      rcases List.mem_cons.mp member with rfl | later
      · exact whole
      · exact ih later

theorem isToken_of_mem_tokenize {text token : List Char} (member : token ∈ tokenize text) :
    IsToken token := by
  obtain ⟨_, _, _, _, layout⟩ := exists_layout_tokenize text
  exact layout.isToken_of_mem member

/-- Trimming takes nothing from the front of a token. -/
theorem IsToken.trim_prefix {token : List Char} (whole : IsToken token) : trim token <+: token := by
  obtain ⟨filled, unbroken⟩ := whole
  cases token with
  | nil => exact absurd rfl filled
  | cons c rest =>
      have solid : isBlank c = false := unbroken.1.resolve_left Bool.false_ne_true
      rw [trim, trimBy, List.dropWhile_cons_of_neg (by simp [solid]), trimEndBy_eq_rdropWhile]
      exact List.rdropWhile_prefix isBlank _

section Named

variable {token name value : List Char} {column : Column}

/-- No blank stands at the beginning of the value of a column. -/
theorem isBlank_value_head (whole : IsToken token) (parted : IsParted (trim token) name value)
    (known : lower name = column.name.toList) : ∀ c ∈ value.head?, isBlank c = false := by
  obtain ⟨back, split⟩ := whole.trim_prefix
  have unbroken := whole.unbroken
  rw [← split, parted.text_eq] at unbroken
  have front : name ++ ':' :: value ++ back = (name ++ [':']) ++ (value ++ back) := by simp
  rw [front] at unbroken
  have behind := (isUnbroken_append.mp unbroken).2
  rw [(isSolid_name (Column.lower_eq_name_iff.mp known)).closed] at behind
  rintro c head
  cases value with
  | nil => cases head
  | cons d rest =>
      obtain rfl := Option.some.inj head
      exact behind.1.resolve_left Bool.false_ne_true

theorem behindColon?_of_parted (whole : IsToken token)
    (parted : IsParted (trim token) name value) : behindColon? token = value.head? := by
  obtain ⟨back, split⟩ := whole.trim_prefix
  have text : token = name ++ ':' :: (value ++ back) := by
    rw [← split, parted.text_eq]
    simp
  have again : IsParted token name (value ++ back) :=
    ⟨text, parted.first, parted.name_ne, by simp [parted.value_ne]⟩
  rw [behindColon?, again.takeWhile_eq.2, List.tail_cons,
    List.head?_append_of_ne_nil _ parted.value_ne]

/-- A token that is split behind the name of a column is seen by the classifier, unless the value
begins with a closing parenthesis. -/
theorem isColumnSpecific_of_parted (whole : IsToken token)
    (parted : IsParted (trim token) name value) (known : lower name = column.name.toList)
    (other : behindColon? token ≠ some ')') : isColumnSpecific token = true := by
  have filled := isBlank_value_head whole parted known
  rw [behindColon?_of_parted whole parted] at other
  obtain ⟨front, last, rfl⟩ := List.eq_nil_or_concat' name |>.resolve_left parted.name_ne
  obtain ⟨first, rest, rfl⟩ := List.exists_cons_of_ne_nil parted.value_ne
  have word := (Column.word_of_variant (Column.lower_eq_name_iff.mp known)
    (List.mem_append_right front (List.mem_singleton_self last))).1
  have inside : [last, ':', first] <:+: trim token := ⟨front, rest, by rw [parted.text_eq]; simp⟩
  exact isColumnSpecific_iff.mpr ⟨last, first, word, filled first rfl,
    fun same => other (congrArg some same), inside.trans whole.trim_prefix.isInfix⟩

end Named

/-- A condition that names a column comes from a token that is split behind this name. -/
theorem ComesFrom.parted {tokens : List (List Char)} {index : Nat} {token : List Char}
    {condition : Condition} (origin : ComesFrom tokens index token)
    (found : (conditions tokens)[index]? = some condition) (named : condition.column.isSome) :
    ∃ name value, ∃ column : Column, IsParted (trim token) name value ∧
      lower name = column.name.toList ∧ condition.column = some (lower name) ∧
      condition.term = unquote value := by
  have asks := origin.asks found
  obtain ⟨named, term, operator⟩ := condition
  cases asks with
  | named _ parted known => exact ⟨_, _, _, parted, known, rfl, rfl⟩
  | free => cases named

theorem isColumnSpecific_compile (text : List Char) :
    (compile text).isColumnSpecific = isColumnSpecific (trim text) := by
  rw [compile_eq]
  cases isColumnSpecific (trim text) <;> rfl

theorem conditions_compile {text : List Char} (specific : isColumnSpecific (trim text) = true) :
    (compile text).conditions = conditions (tokenize (trim text)) := by
  rw [compile_eq, if_pos specific]

theorem getElem?_conditions_of_compile {text : List Char} {index : Nat} {condition : Condition}
    (found : (compile text).conditions[index]? = some condition) :
    (conditions (tokenize (trim text)))[index]? = some condition := by
  rw [compile_eq] at found
  split at found
  · exact found
  · cases found

/-- Every condition comes from a token, and if it names a column, then the text is seen to name
one, unless a closing parenthesis stands behind the colon of this token.  So in a text that is
left to the text search no other tokens would have been read as terms for columns. -/
theorem named_conditions_seen (text : List Char) :
    (∀ index condition, (conditions (tokenize text))[index]? = some condition →
      condition.column.isSome →
      (∃ token, ComesFrom (tokenize text) index token) ∧
        ∀ token, ComesFrom (tokenize text) index token → behindColon? token ≠ some ')' →
          isColumnSpecific text = true) ∧
    ((compile text).isColumnSpecific = false →
      ∀ index condition, (conditions (tokenize (trim text)))[index]? = some condition →
        condition.column.isSome → ∀ token, ComesFrom (tokenize (trim text)) index token →
          ∃ name rest, ':' ∉ name ∧ token = name ++ ':' :: ')' :: rest ∧
            condition.column = some (lower name)) := by
  have seen : ∀ {text : List Char} {index condition token},
      (conditions (tokenize text))[index]? = some condition → condition.column.isSome →
      ComesFrom (tokenize text) index token → behindColon? token ≠ some ')' →
      isColumnSpecific text = true := by
    intro text index condition token found named origin other
    obtain ⟨name, value, column, parted, known, _, _⟩ := origin.parted found named
    have specific := isColumnSpecific_of_parted (isToken_of_mem_tokenize origin.mem) parted known
      other
    exact isColumnSpecific_of_infix specific (infix_of_mem_tokenize origin.mem)
  constructor
  · intro index condition found named
    have inside := (List.getElem?_eq_some_iff.mp found).1
    exact ⟨exists_comesFrom inside, fun token origin other => seen found named origin other⟩
  · intro plain index condition found named token origin
    rw [isColumnSpecific_compile] at plain
    have closing : behindColon? token = some ')' := by
      by_contra other
      rw [seen found named origin other] at plain
      cases plain
    obtain ⟨name, value, column, parted, known, same, _⟩ := origin.parted found named
    have whole := isToken_of_mem_tokenize origin.mem
    obtain ⟨back, split⟩ := whole.trim_prefix
    rw [behindColon?_of_parted whole parted] at closing
    obtain ⟨rest, rfl⟩ := List.head?_eq_some_iff.mp closing
    refine ⟨name, rest ++ back, parted.first, ?_, same⟩
    rw [← split, parted.text_eq]
    simp

/-- A quoted term for a column is seen, and one that begins with a closing parenthesis is not. -/
theorem named_conditions_seen_quoted :
    ((conditions (tokenize "x or Status:'a b'".toList))[1]? =
        some ⟨some "status".toList, "a b".toList, some "OR".toList⟩ ∧
      ComesFrom (tokenize "x or Status:'a b'".toList) 1 "Status:'a b'".toList ∧
      behindColon? "Status:'a b'".toList ≠ some ')' ∧
      isColumnSpecific "x or Status:'a b'".toList = true) ∧
    (compile "x status:)y".toList).isColumnSpecific = false ∧
      (conditions (tokenize (trim "x status:)y".toList)))[1]? =
        some ⟨some "status".toList, ")y".toList, some "AND".toList⟩ ∧
      ComesFrom (tokenize (trim "x status:)y".toList)) 1 "status:)y".toList ∧
      ∃ name rest, ':' ∉ name ∧ "status:)y".toList = name ++ ':' :: ')' :: rest ∧
        some "status".toList = some (lower name) := by
  constructor
  · have found : (conditions (tokenize "x or Status:'a b'".toList))[1]? =
        some ⟨some "status".toList, "a b".toList, some "OR".toList⟩ := by decide +kernel
    have origin : ComesFrom (tokenize "x or Status:'a b'".toList) 1 "Status:'a b'".toList :=
      ⟨["x".toList, "or".toList], [], by decide +kernel⟩
    have other : behindColon? "Status:'a b'".toList ≠ some ')' := by decide +kernel
    exact ⟨found, origin, other, ((named_conditions_seen _).1 _ _ found rfl).2 _ origin other⟩
  · have plain : (compile "x status:)y".toList).isColumnSpecific = false := by decide +kernel
    have found : (conditions (tokenize (trim "x status:)y".toList)))[1]? =
        some ⟨some "status".toList, ")y".toList, some "AND".toList⟩ := by decide +kernel
    have origin : ComesFrom (tokenize (trim "x status:)y".toList)) 1 "status:)y".toList :=
      ⟨["x".toList], [], by decide +kernel⟩
    exact ⟨plain, found, origin, (named_conditions_seen _).2 plain _ _ found rfl _ origin⟩

end AuditTrail.Query
