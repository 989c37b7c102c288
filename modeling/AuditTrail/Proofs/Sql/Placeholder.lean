import AuditTrail.Proofs.Sql.Parameter
import AuditTrail.Proofs.Text.Case
import AuditTrail.Text.Word

/-!
# The placeholders of a statement

A word behind a colon is a placeholder, unless a colon follows the word or the colon itself stands
behind a colon, a backslash or a character of a word.  So a conversion such as `::text` is none.
-/

namespace AuditTrail.Sql

open Text Query

/-- Whether a colon right behind a character begins no placeholder. -/
def shields (c : Char) : Bool := c == ':' || c == '\\' || isWord c

/-- Whether a text is one word. -/
def IsName (name : List Char) : Prop := name ≠ [] ∧ ∀ c ∈ name, isWord c = true

/-- Whether a text is a whole word, which no colon follows, and what is left behind it. -/
structure BeginsWith (text name right : List Char) : Prop where
  split : text = name ++ right
  named : IsName name
  ends : ∀ c ∈ right.head?, isWord c = false ∧ c ≠ ':'

/-- Whether a name stands as a placeholder in a text. -/
def IsPlaceholder (text name : List Char) : Prop :=
  ∃ left rest right, text = left ++ ':' :: rest ∧ left.getLast?.any shields = false ∧
    BeginsWith rest name right

/-- The name that a text begins with, if a placeholder can have it. -/
def nameOf? (text : List Char) : Option (List Char) :=
  let name := text.takeWhile isWord
  if name.isEmpty || (text.dropWhile isWord).head? == some ':' then none else some name

/-- The placeholders of a text, whose first character may be shielded by what is before it. -/
def placeholdersAfter : Bool → List Char → List (List Char)
  | _, [] => []
  | shielded, c :: rest =>
    (if c == ':' && !shielded then (nameOf? rest).toList else []) ++
      placeholdersAfter (shields c) rest

/-- The placeholders of a text, in their order. -/
def placeholders (text : List Char) : List (List Char) := placeholdersAfter false text

theorem nameOf?_eq_some_iff {text name : List Char} :
    nameOf? text = some name ↔ ∃ right, BeginsWith text name right := by
  rw [nameOf?]
  constructor
  · intro found
    split at found
    · cases found
    · next whole =>
        obtain rfl := Option.some.inj found
        rw [Bool.or_eq_true, not_or] at whole
        refine ⟨text.dropWhile isWord, List.takeWhile_append_dropWhile.symm, ⟨?_, ?_⟩, ?_⟩
        · simpa using whole.1
        · exact fun c inside => List.mem_takeWhile_imp inside
        · intro c head
          have stops := List.head?_dropWhile_not isWord text
          rw [head] at stops
          refine ⟨by simpa using stops, ?_⟩
          rintro rfl
          exact whole.2 (by rw [head]; rfl)
  · rintro ⟨right, rfl, ⟨filled, word⟩, ends⟩
    have taken : (name ++ right).takeWhile isWord = name := by
      rw [List.takeWhile_append_of_pos word]
      cases right with
      | nil => simp
      | cons c right => simp [(ends c rfl).1]
    have dropped : (name ++ right).dropWhile isWord = right := by
      rw [List.dropWhile_append_of_pos word]
      cases right with
      | nil => rfl
      | cons c right => simp [(ends c rfl).1]
    have whole : ¬ (name.isEmpty || right.head? == some ':') = true := by
      rw [Bool.or_eq_true, not_or, List.isEmpty_iff]
      refine ⟨filled, fun colon => ?_⟩
      exact (ends ':' (by simpa using colon)).2 rfl
    simp only [taken, dropped]
    rw [if_neg whole]

theorem mem_placeholdersAfter_iff {shielded : Bool} {text name : List Char} :
    name ∈ placeholdersAfter shielded text ↔ ∃ left rest right, text = left ++ ':' :: rest ∧
      left.getLast?.elim shielded shields = false ∧ BeginsWith rest name right := by
  induction text generalizing shielded with
  | nil => simp [placeholdersAfter]
  | cons c text ih =>
      have here : name ∈ (if c == ':' && !shielded then (nameOf? text).toList else []) ↔
          c = ':' ∧ shielded = false ∧ ∃ right, BeginsWith text name right := by
        rw [← nameOf?_eq_some_iff]
        by_cases colon : c = ':' <;> cases shielded <;> simp [colon]
      have shifted (left : List Char) : (c :: left).getLast?.elim shielded shields =
          left.getLast?.elim (shields c) shields := by
        rw [List.getLast?_cons]
        cases left.getLast? <;> rfl
      rw [placeholdersAfter, List.mem_append, here, ih]
      constructor
      · rintro (⟨rfl, free, right, begins⟩ | ⟨left, rest, right, rfl, free, begins⟩)
        · exact ⟨[], text, right, rfl, free, begins⟩
        · exact ⟨c :: left, rest, right, rfl, (shifted left).trans free, begins⟩
      · rintro ⟨left, rest, right, split, free, begins⟩
        cases left with
        | nil =>
            obtain ⟨rfl, rfl⟩ := List.cons.inj split
            exact .inl ⟨rfl, free, right, begins⟩
        | cons d left =>
            obtain ⟨rfl, rfl⟩ := List.cons.inj split
            exact .inr ⟨left, rest, right, rfl, (shifted left).symm.trans free, begins⟩

/-- Going through a text finds its placeholders. -/
theorem mem_placeholders_iff {text name : List Char} :
    name ∈ placeholders text ↔ IsPlaceholder text name := by
  have unshielded (left : List Char) :
      left.getLast?.elim false shields = left.getLast?.any shields := by
    cases left.getLast? <;> rfl
  simp only [placeholders, mem_placeholdersAfter_iff, IsPlaceholder, unshielded]

theorem nameOf?_append_of_break {c : Char} (free : shields c = false) (left rest : List Char) :
    nameOf? (left ++ c :: rest) = nameOf? left := by
  have apart : isWord c = false ∧ c ≠ ':' := by
    simp only [shields, Bool.or_eq_false_iff, beq_eq_false_iff_ne] at free
    exact ⟨free.2, free.1.1⟩
  have taken : (left ++ c :: rest).takeWhile isWord = left.takeWhile isWord := by
    rw [List.takeWhile_append]
    split
    · next whole =>
        have all : left.takeWhile isWord = left := (List.takeWhile_prefix _).eq_of_length whole
        simp [all, apart.1]
    · rfl
  have head : (((left ++ c :: rest).dropWhile isWord).head? == some ':') =
      ((left.dropWhile isWord).head? == some ':') := by
    rw [List.dropWhile_append]
    split
    · next empty => simp [List.isEmpty_iff.mp empty, apart]
    · next filled =>
        obtain ⟨d, more, same⟩ := List.exists_cons_of_ne_nil
          (fun empty => filled (List.isEmpty_iff.mpr empty))
        rw [same]
        rfl
  simp only [nameOf?, taken, head]

theorem placeholdersAfter_cons_of_ne {c : Char} (other : c ≠ ':') (shielded : Bool)
    (rest : List Char) :
    placeholdersAfter shielded (c :: rest) = placeholdersAfter (shields c) rest := by
  rw [placeholdersAfter, beq_false_of_ne other]
  rfl

theorem placeholdersAfter_append_of_break {c : Char} (free : shields c = false)
    (shielded : Bool) (left rest : List Char) :
    placeholdersAfter shielded (left ++ c :: rest) =
      placeholdersAfter shielded left ++ placeholders rest := by
  induction left generalizing shielded with
  | nil =>
      have other : c ≠ ':' := by
        rintro rfl
        cases free
      rw [List.nil_append, placeholdersAfter_cons_of_ne other, free]
      rfl
  | cons d left ih =>
      rw [List.cons_append, placeholdersAfter, placeholdersAfter, ih,
        nameOf?_append_of_break free, List.append_assoc]

/-- A text may be cut at a character that neither belongs to a word nor shields a colon. -/
theorem placeholders_append_of_break {c : Char} (free : shields c = false)
    (left rest : List Char) :
    placeholders (left ++ c :: rest) = placeholders left ++ placeholders rest :=
  placeholdersAfter_append_of_break free false left rest

theorem placeholders_cons_of_break {c : Char} (free : shields c = false) (rest : List Char) :
    placeholders (c :: rest) = placeholders rest :=
  placeholders_append_of_break free [] rest

theorem shields_space : shields ' ' = false := by decide +kernel

theorem shields_line : shields '\n' = false := by decide +kernel

theorem shields_opening : shields '(' = false := by decide +kernel

theorem shields_closing : shields ')' = false := by decide +kernel

theorem placeholders_append_closing (text : List Char) :
    placeholders (text ++ [')']) = placeholders text := by
  rw [placeholders_append_of_break shields_closing]
  exact List.append_nil _

theorem placeholders_indent (text : List Char) :
    placeholders (indent text) = placeholders text := by
  have blanks : indent text = ' ' :: ' ' :: ' ' :: ' ' :: text := rfl
  simp only [blanks, placeholders_cons_of_break shields_space]

theorem placeholders_lines (lines : List (List Char)) :
    placeholders (join ['\n'] lines) = lines.flatMap placeholders :=
  join_of_cut (placeholders_append_of_break shields_line) rfl lines

theorem placeholdersAfter_of_not_mem {text : List Char} (plain : ':' ∉ text) (shielded : Bool) :
    placeholdersAfter shielded text = [] := by
  induction text generalizing shielded with
  | nil => rfl
  | cons c rest ih =>
      rw [List.mem_cons, not_or] at plain
      rw [placeholdersAfter_cons_of_ne (Ne.symm plain.1), ih plain.2]

/-- A text without colons has no placeholders. -/
theorem placeholders_of_not_mem {text : List Char} (plain : ':' ∉ text) :
    placeholders text = [] :=
  placeholdersAfter_of_not_mem plain false

theorem placeholders_word_space {word : List Char} (plain : ':' ∉ word) (rest : List Char) :
    placeholders (word ++ ' ' :: rest) = placeholders rest := by
  rw [placeholders_append_of_break shields_space, placeholders_of_not_mem plain, List.nil_append]

/-- A word behind a colon is a placeholder. -/
theorem placeholders_parameter {name : List Char} (named : IsName name) :
    placeholders (':' :: name) = [name] := by
  have colon : isWord ':' = false := by decide +kernel
  have plain : ':' ∉ name := fun inside => by
    rw [named.2 ':' inside] at colon
    cases colon
  have begins : nameOf? name = some name :=
    nameOf?_eq_some_iff.mpr ⟨[], (List.append_nil name).symm, named, by simp⟩
  rw [placeholders, placeholdersAfter, placeholdersAfter_of_not_mem plain, begins]
  rfl

theorem lt_of_isAlphanum {c : Char} (letter : c.isAlphanum = true) : c.toNat < 128 := by
  unfold Char.isAlphanum Char.isAlpha Char.isUpper Char.isLower Char.isDigit at letter
  simp only [Bool.or_eq_true, Bool.and_eq_true, decide_eq_true_eq, ge_iff_le,
    UInt32.le_iff_toNat_le] at letter
  rcases letter with (⟨_, top⟩ | ⟨_, top⟩) | ⟨_, top⟩ <;> exact lt_of_le_of_lt top (by decide)

/-- The characters that names hold in a statement are characters of words. -/
theorem isWord_of_name {c : Char} (named : CharKind.of c = .name) : isWord c = true := by
  have table : ∀ point < 128, CharKind.of (Char.ofNat point) = .name →
      isWord (Char.ofNat point) = true := by decide +kernel
  have ascii : c.toNat < 128 := by
    rw [CharKind.of] at named
    split at named
    · next kept =>
        rw [Bool.or_eq_true] at kept
        rcases kept with letter | underscore
        · exact lt_of_isAlphanum letter
        · rw [eq_of_beq underscore]
          decide
    · split at named <;> cases named
  exact forall_ascii (p := fun c => CharKind.of c = .name → isWord c = true) table c ascii named

theorem isName_parameterName (index : Nat) : IsName (parameterName index) :=
  ⟨by simp [parameterName], fun _ inside => isWord_of_name (name_of_mem_parameterName inside)⟩

theorem isName_patternName (index : Nat) : IsName (patternName index) :=
  ⟨by simp [patternName, parameterName],
    fun _ inside => isWord_of_name (name_of_mem_patternName inside)⟩

theorem Comparison.placeholders_text {c : Comparison} (named : IsName c.parameter) :
    placeholders c.text = [c.parameter] := by
  obtain ⟨column, comparator, parameter⟩ := c
  have front : placeholders (column.name.toList ++ "::text ".toList ++ comparator.text) = [] := by
    cases column <;> cases comparator <;> decide +kernel
  rw [Comparison.text, placeholders_append_of_break shields_space, front,
    placeholders_parameter named]
  rfl

example : placeholders "id::text = :p10".toList = ["p10".toList] := by decide +kernel

theorem placeholders_or (left rest : List Char) :
    placeholders (left ++ (" OR ".toList ++ rest)) = placeholders left ++ placeholders rest := by
  have word : " OR ".toList ++ rest = ' ' :: ("OR".toList ++ ' ' :: rest) := rfl
  rw [word, placeholders_append_of_break shields_space, placeholders_word_space (by decide)]

/-- The comparisons of an operand. -/
def Operand.comparisons : Operand → List Comparison
  | single comparison => [comparison]
  | anyOf comparisons => comparisons

/-- An operand has the parameters of its comparisons as placeholders. -/
theorem Operand.placeholders_text {operand : Operand}
    (named : ∀ c ∈ operand.comparisons, IsName c.parameter) :
    placeholders operand.text = operand.comparisons.map Comparison.parameter := by
  cases operand with
  | single comparison =>
      exact Comparison.placeholders_text (named comparison (List.mem_singleton_self _))
  | anyOf alternatives =>
      have pieces : (alternatives.map Comparison.text).flatMap placeholders =
          alternatives.map Comparison.parameter := by
        rw [List.flatMap_map, List.map_eq_flatMap]
        exact List.flatMap_congr fun c member => Comparison.placeholders_text (named c member)
      rw [text, List.cons_append, placeholders_cons_of_break shields_opening,
        placeholders_append_closing, join_of_cut placeholders_or rfl, pieces]
      rfl

/-- Whether names are those that are bound. -/
def AreBound (found : List (List Char)) (bindings : Bindings) : Prop :=
  ∀ name : String, name.toList ∈ found ↔ name ∈ names bindings

theorem AreBound.nil : AreBound [] [] := by simp [AreBound, names]

theorem AreBound.append {front back : List (List Char)} {own more : Bindings}
    (first : AreBound front own) (last : AreBound back more) :
    AreBound (front ++ back) (own ++ more) := by
  intro name
  rw [List.mem_append, names_append, List.mem_append, first name, last name]

theorem areBound_single (name : String) (value : Value) :
    AreBound [name.toList] [(name, value)] := by
  intro other
  simp [names, String.toList_inj]

theorem areBound_bindText (name value : List Char) : AreBound [name] [bindText name value] := by
  have bound := areBound_single (String.ofList name) (.text (String.ofList value))
  rwa [String.toList_ofList] at bound

theorem areBound_operand {index : Nat} {condition : Condition} {made : Operand}
    {bindings : Bindings} (built : operand index condition = .ok (made, bindings)) :
    AreBound (placeholders made.text) bindings := by
  rcases operand_cases built with ⟨_, rfl, rfl⟩ | ⟨_, _, _, rfl, rfl⟩ |
    ⟨_, column, _, _, _, rfl, rfl⟩
  · -- All comparisons of a term without a column have one parameter.
    rw [Operand.placeholders_text]
    · intro name
      rw [← areBound_bindText (parameterName index)]
      simp [Operand.comparisons, Column.freeText]
    · intro c member
      obtain ⟨column, _, rfl⟩ := List.mem_map.mp member
      exact isName_parameterName index
  · rw [Operand.placeholders_text]
    · exact (areBound_bindText (parameterName index) _).append
        (areBound_bindText (patternName index) _)
    · intro c member
      rcases List.mem_cons.mp member with rfl | member
      · exact isName_parameterName index
      · obtain rfl := List.mem_singleton.mp member
        exact isName_patternName index
  · rw [Operand.text, Comparison.placeholders_text (isName_parameterName index)]
    exact areBound_bindText (parameterName index) _

theorem areBound_following {index : Nat} {conditions : List Condition}
    {operands : List (Joiner × Operand)} {bindings : Bindings}
    (built : following index conditions = .ok (operands, bindings)) :
    AreBound (operands.flatMap fun joined => placeholders joined.2.text) bindings := by
  induction conditions generalizing index operands bindings with
  | nil =>
      obtain ⟨rfl, rfl⟩ := Prod.mk.inj (Except.ok.inj built)
      exact .nil
  | cons condition rest ih =>
      obtain ⟨made, own, joiner, later, more, first, _, last, rfl, rfl⟩ := following_cons built
      exact (areBound_operand first).append (ih last)

theorem Filter.placeholders_text (filter : Filter) :
    placeholders filter.text = placeholders filter.first.text ++
      filter.rest.flatMap fun joined => placeholders joined.2.text := by
  have cut : ∀ left rest, placeholders (left ++ ([' '] ++ rest)) =
      placeholders left ++ placeholders rest := placeholders_append_of_break shields_space
  have joined (next : Joiner × Operand) :
      placeholders (next.1.word ++ ' ' :: next.2.text) = placeholders next.2.text :=
    placeholders_word_space (by cases next.1 <;> decide) _
  rw [text, placeholders_append_closing, List.cons_append,
    placeholders_cons_of_break shields_opening]
  refine (append_flatMap_of_cut cut filter.first.text
    (fun next : Joiner × Operand => next.1.word ++ ' ' :: next.2.text) filter.rest).trans ?_
  simp only [joined]

/-- The placeholders of a filter are the parameters that are bound for it. -/
theorem areBound_filterOf {conditions : List Condition} {filter : Option Filter}
    {bindings : Bindings} (built : filterOf conditions = .ok (filter, bindings)) :
    AreBound ((filter.map Filter.text).toList.flatMap placeholders) bindings := by
  cases conditions with
  | nil =>
      obtain ⟨rfl, rfl⟩ := Prod.mk.inj (Except.ok.inj built)
      exact .nil
  | cons condition rest =>
      obtain ⟨first, own, later, more, leading, last, rfl, rfl⟩ := filterOf_cons built
      rw [Option.map_some, Option.toList_some, List.flatMap_singleton, Filter.placeholders_text]
      exact (areBound_operand leading).append (areBound_following last)

theorem placeholders_whereLines (clauses : List (List Char)) :
    (whereLines clauses).flatMap placeholders = clauses.flatMap placeholders := by
  have head : placeholders "WHERE".toList = [] := placeholders_of_not_mem (by decide)
  have joined (clause : List Char) :
      placeholders (indent ("AND ".toList ++ clause)) = placeholders clause := by
    have word : "AND ".toList ++ clause = "AND".toList ++ ' ' :: clause := rfl
    rw [placeholders_indent, word, placeholders_word_space (by decide)]
  cases clauses with
  | nil => rfl
  | cons first rest =>
      simp only [whereLines, List.flatMap_cons, head, placeholders_indent, List.flatMap_map, joined,
        List.nil_append]

/-- The sort key of a statement is no placeholder. -/
theorem placeholders_sortKey (key : SortKey) : placeholders key.text = [] := by
  cases key with
  | rank => exact placeholders_of_not_mem (by decide)
  | column column descending =>
      exact placeholders_of_not_mem (by cases column <;> cases descending <;> decide)

theorem placeholders_orderLines (order : Option SortKey) :
    (orderLines (order.toList.map SortKey.text)).flatMap placeholders = [] := by
  cases order with
  | none => rfl
  | some key =>
      have head : placeholders "ORDER BY".toList = [] := placeholders_of_not_mem (by decide)
      simp only [Option.toList_some, List.map_cons, List.map_nil, orderLines, List.flatMap_cons,
        List.flatMap_nil, head, placeholders_indent, placeholders_sortKey, List.append_nil]

theorem placeholders_windowLines (paginated : Bool) :
    (windowLines paginated).flatMap placeholders =
      if paginated then ["limit".toList, "offset".toList] else [] := by
  cases paginated <;> decide +kernel

theorem placeholders_selection (select : List Char) (clauses : List (List Char))
    (order : Option SortKey) (paginated : Bool) :
    placeholders (selection select clauses (order.toList.map SortKey.text) paginated) =
      placeholders select ++ clauses.flatMap placeholders ++
        if paginated then ["limit".toList, "offset".toList] else [] := by
  have head : placeholders "SELECT".toList = [] := placeholders_of_not_mem (by decide)
  have table : placeholders ("FROM ".toList ++ tableName) = [] :=
    placeholders_of_not_mem (by decide)
  rw [selection, placeholders_lines]
  simp only [List.flatMap_append, List.flatMap_cons, List.flatMap_nil, head, table,
    placeholders_indent, placeholders_whereLines, placeholders_orderLines,
    placeholders_windowLines, List.nil_append, List.append_nil]

theorem areBound_range (range : DateRange) :
    AreBound (range.clause?.toList.flatMap placeholders) range.bindings := by
  obtain ⟨first, last⟩ := range
  have both : placeholders "timestamp BETWEEN :from_date AND :to_date".toList =
      ["from_date".toList, "to_date".toList] := by decide +kernel
  have earliest : placeholders "timestamp >= :from_date".toList = ["from_date".toList] := by
    decide +kernel
  have latest : placeholders "timestamp <= :to_date".toList = ["to_date".toList] := by
    decide +kernel
  cases first <;> cases last
  · exact .nil
  all_goals
    simp only [DateRange.clause?, DateRange.bindings, Option.toList_some, List.flatMap_cons,
      List.flatMap_nil, List.append_nil, both, earliest, latest]
  · exact areBound_single "to_date" _
  · exact areBound_single "from_date" _
  · exact (areBound_single "from_date" _).append (areBound_single "to_date" _)

/-- The clauses in front of the bounds on the time, with what is bound for them. -/
structure AreFilled (clauses : List (List Char)) (own : Bindings) : Prop where
  bound : AreBound (clauses.flatMap placeholders) own
  distinct : (names own).Nodup
  apart : ∀ name ∈ names own, name ∉ commonNames

theorem AreFilled.nil : AreFilled [] [] where
  bound := .nil
  distinct := List.nodup_nil
  apart := by simp [names]

theorem AreFilled.filter {conditions : List Condition} {filter : Option Filter}
    {bindings : Bindings} (built : filterOf conditions = .ok (filter, bindings)) :
    AreFilled (filter.map Filter.text).toList bindings where
  bound := areBound_filterOf built
  distinct := (filterOf_names built).1
  apart name member := by
    obtain ⟨index, named⟩ := (filterOf_names built).2 name member
    exact named.not_mem_commonNames

theorem AreFilled.search (expression configuration : Value) :
    AreFilled [matchClause] [("query", expression), ("ts_config", configuration)] where
  bound := by
    have found : [matchClause].flatMap placeholders = ["ts_config".toList, "query".toList] := by
      decide +kernel
    have bound : AreBound ["query".toList, "ts_config".toList]
        [("query", expression), ("ts_config", configuration)] :=
      (areBound_single "query" expression).append (areBound_single "ts_config" configuration)
    intro name
    rw [found, ← bound name]
    exact (List.Perm.swap _ _ []).mem_iff
  distinct := by simp [names]
  apart := by simp [names, commonNames]

/-- Whether the placeholders of a statement are the names that are bound, and none is bound
twice. -/
def Statement.IsFilled (statement : Statement) : Prop :=
  (names statement.bindings).Nodup ∧
    ∀ name : String, IsPlaceholder statement.text name.toList ↔ name ∈ names statement.bindings

/-- What is selected may use the parameters of the clauses. -/
theorem AreFilled.isFilled {clauses : List (List Char)} {own : Bindings}
    (filled : AreFilled clauses own) (range : DateRange) (select : List Char)
    (selected : placeholders select ⊆ clauses.flatMap placeholders) (order : Option SortKey)
    (paginated : Bool) (window : Bindings)
    (windowed : AreBound (if paginated then ["limit".toList, "offset".toList] else []) window)
    (common : (names window).Sublist ["limit", "offset"]) :
    Statement.IsFilled ⟨selection select (clauses ++ range.clause?.toList)
      (order.toList.map SortKey.text) paginated, own ++ range.bindings ++ window⟩ := by
  refine ⟨nodup_names range filled.distinct filled.apart common, fun name => ?_⟩
  have bound := ((filled.bound.append (areBound_range range)).append windowed) name
  have used : name.toList ∈ placeholders select → name.toList ∈ clauses.flatMap placeholders :=
    fun inside => selected inside
  rw [← mem_placeholders_iff, ← bound, placeholders_selection, List.flatMap_append]
  simp only [List.mem_append]
  tauto

end AuditTrail.Sql
