import AuditTrail.Proofs.Sql.Factor
import AuditTrail.Sql.Statement

/-!
# Reading a selection

A selection is read clause by clause: what is selected, the table, the condition with the
precedence of AND and OR, the sort keys, and the parameters of the window.  The text of every
selection with readable clauses is read back to exactly what it was put together from.
-/

namespace AuditTrail.Sql

open Text Query

/-- What a selection asks for. -/
structure Reading where
  /-- What is selected, in tokens. -/
  selected : List Token
  /-- The name of the table. -/
  table : List Char
  /-- The condition, if there is one. -/
  condition : Option Formula
  /-- The sort keys, each with whether it descends. -/
  order : List (List Char × Bool)
  /-- The parameters of the window: its limit and its offset. -/
  window : Option (List Char × List Char)
deriving DecidableEq, Repr

namespace Reading

/-- The condition that some tokens write behind WHERE. -/
def condition? : List Token → Option (Option Formula)
  | [] => some none
  | .whereWord :: rest => (Formula.ofTokens? rest).map some
  | _ => none

/-- The sort keys that some tokens write, and the tokens behind them. -/
def sortKeys? : List Token → Option (List (List Char × Bool) × List Token)
  | .word name :: .ascWord :: .comma :: rest =>
      (sortKeys? rest).map fun (keys, rest) => ((name, false) :: keys, rest)
  | .word name :: .descWord :: .comma :: rest =>
      (sortKeys? rest).map fun (keys, rest) => ((name, true) :: keys, rest)
  | .word name :: .ascWord :: rest => some ([(name, false)], rest)
  | .word name :: .descWord :: rest => some ([(name, true)], rest)
  | _ => none

/-- The order that some tokens write, and the tokens behind it. -/
def order? : List Token → Option (List (List Char × Bool) × List Token)
  | .orderWord :: .byWord :: rest => sortKeys? rest
  | rest => some ([], rest)

/-- The window that some tokens write. -/
def window? : List Token → Option (Option (List Char × List Char))
  | [] => some none
  | [.limitWord, .parameter limit, .offsetWord, .parameter offset] => some (some (limit, offset))
  | _ => none

/-- What the tokens behind the name of the table ask for. -/
def ofClauses? (selected : List Token) (table : List Char) (rest : List Token) :
    Option Reading := do
  let condition ← condition? (rest.takeWhile fun token => !token.endsCondition)
  let (order, rest) ← order? (rest.dropWhile fun token => !token.endsCondition)
  let window ← window? rest
  pure ⟨selected, table, condition, order, window⟩

/-- What some tokens ask for. -/
def ofTokens? : List Token → Option Reading
  | .selectWord :: rest =>
      match rest.dropWhile (· != .fromWord) with
      | .fromWord :: .word table :: clauses =>
          ofClauses? (rest.takeWhile (· != .fromWord)) table clauses
      | _ => none
  | _ => none

/-- What a statement asks for. -/
def ofText? (text : List Char) : Option Reading := ofTokens? (tokens text)

end Reading

theorem tokens_indent (text : List Char) : tokens (indent text) = tokens text := by
  simp only [indent]
  exact (tokens_space_cons _).trans <| (tokens_space_cons _).trans <|
    (tokens_space_cons _).trans (tokens_space_cons text)

theorem tokens_and (text : List Char) :
    tokens ("AND ".toList ++ text) = .andWord :: tokens text :=
  tokens_append_space "AND".toList text

/-- The condition of clauses that all have to hold. -/
def Formula.all? : List Formula → Option Formula
  | [] => none
  | first :: rest => some (.joined first (rest.map fun next => (.and, next)))

/-- A row meets the condition of clauses when it meets all of them. -/
theorem Database.all_holds_all? {ρ : Type} (database : Database ρ) (row : ρ)
    (bindings : Bindings) (formulas : List Formula) :
    (Formula.all? formulas).all (database.holds row bindings) =
      formulas.all (database.holds row bindings) := by
  cases formulas with
  | nil => rfl
  | cons first rest =>
      rw [Formula.all?, Option.all_some, holds_joined, openRun_and, List.all_cons]

/-- Clauses that are each read as one factor. -/
abbrev AreClauses (clauses : List (List Char)) (formulas : List Formula) : Prop :=
  List.Forall₂ (fun clause formula => IsFactor (tokens clause) formula) clauses formulas

theorem tokens_whereLines {clauses : List (List Char)} {formulas : List Formula}
    (read : AreClauses clauses formulas) :
    Reading.condition? ((whereLines clauses).flatMap tokens) = some (Formula.all? formulas) ∧
      ∀ token ∈ (whereLines clauses).flatMap tokens, token.endsCondition = false := by
  cases read with
  | nil => exact ⟨rfl, by simp [whereLines]⟩
  | @cons clause formula clauses formulas leading later =>
      have factors : AreFactors (clauses.map fun clause => (.and, tokens clause))
          (formulas.map fun formula => (.and, formula)) := by
        rw [AreFactors, List.forall₂_map_left_iff, List.forall₂_map_right_iff]
        exact later.imp fun _ _ read => ⟨rfl, read⟩
      have lines : (whereLines (clause :: clauses)).flatMap tokens = .whereWord ::
          (tokens clause ++ joinedTokens (clauses.map fun clause => (.and, tokens clause))) := by
        simp only [whereLines, List.flatMap_cons, List.flatMap_map, tokens_indent, tokens_and,
          joinedTokens]
        rfl
      rw [lines]
      constructor
      · rw [Reading.condition?, leading.formula_joined factors]
        rfl
      · intro token member
        rcases List.mem_cons.mp member with same | inside
        · rw [same]
          rfl
        · rcases List.mem_append.mp inside with own | joined
          · exact leading.inside token own
          · exact factors.inside token joined

/-- The name of a sort key, and whether it descends. -/
def SortKey.named : SortKey → List Char × Bool
  | .column sorted descending => (sorted.name.toList, descending)
  | .rank => ("rank".toList, true)

theorem tokens_sortKey (key : SortKey) :
    tokens key.text = [.word key.named.1, if key.named.2 then .descWord else .ascWord] := by
  cases key with
  | column sorted descending => cases sorted <;> cases descending <;> rfl
  | rank => rfl

/-- The lines behind the clauses are read back to the sort key and the window. -/
theorem read_orderLines (order : Option SortKey) (paginated : Bool) :
    ∃ rest, Reading.order?
        ((orderLines (order.toList.map SortKey.text) ++ windowLines paginated).flatMap tokens) =
          some (order.toList.map SortKey.named, rest) ∧
      Reading.window? rest =
        some (if paginated then some ("limit".toList, "offset".toList) else none) := by
  cases order with
  | none => cases paginated <;> exact ⟨_, rfl, rfl⟩
  | some key =>
      have line : (orderLines [key.text]).flatMap tokens = [.orderWord, .byWord,
          .word key.named.1, if key.named.2 then .descWord else .ascWord] := by
        simp only [orderLines, List.flatMap_cons, tokens_indent, tokens_sortKey]
        rfl
      simp only [Option.toList_some, List.map_cons, List.map_nil, List.flatMap_append, line]
      rcases key.named with ⟨name, _ | _⟩ <;> cases paginated <;> exact ⟨_, rfl, rfl⟩

/-- The condition ends where the lines of the order and the window begin. -/
theorem endsCondition_orderLines (order : Option SortKey) (paginated : Bool) :
    ∀ token ∈ ((orderLines (order.toList.map SortKey.text) ++
      windowLines paginated).flatMap tokens).head?, token.endsCondition = true := by
  generalize behind : (orderLines (order.toList.map SortKey.text) ++
    windowLines paginated).flatMap tokens = tail
  have begins : tail = [] ∨ ∃ token rest, tail = token :: rest ∧ token.endsCondition = true := by
    rw [← behind]
    cases order with
    | none =>
        cases paginated with
        | false => exact .inl rfl
        | true => exact .inr ⟨.limitWord, _, rfl, rfl⟩
    | some key => exact .inr ⟨.orderWord, _, rfl, rfl⟩
  rcases begins with split | ⟨token, rest, split, ends⟩
  · simp [split]
  · simpa [split] using ends

/-- A list is cut where a property ends. -/
theorem cut_at {α : Type} (p : α → Bool) {front back : List α}
    (before : ∀ x ∈ front, p x = true) (after : ∀ x ∈ back.head?, p x = false) :
    (front ++ back).takeWhile p = front ∧ (front ++ back).dropWhile p = back := by
  rw [List.takeWhile_append_of_pos before, List.dropWhile_append_of_pos before]
  cases back with
  | nil => simp
  | cons x rest =>
      have stops : p x = false := after x (by simp)
      simp [stops]

/-- The text of a selection is read back clause by clause. -/
theorem Reading.ofText?_selection {select : List Char} {clauses : List (List Char)}
    {formulas : List Formula} (order : Option SortKey) (paginated : Bool)
    (plain : ∀ token ∈ tokens select, token ≠ .fromWord) (read : AreClauses clauses formulas) :
    Reading.ofText? (selection select clauses (order.toList.map SortKey.text) paginated) =
      some {
        selected := tokens select
        table := tableName
        condition := Formula.all? formulas
        order := order.toList.map SortKey.named
        window := if paginated then some ("limit".toList, "offset".toList) else none } := by
  obtain ⟨condition, inside⟩ := tokens_whereLines read
  obtain ⟨rest, keys, window⟩ := read_orderLines order paginated
  have ends := endsCondition_orderLines order paginated
  generalize behind : (orderLines (order.toList.map SortKey.text) ++
    windowLines paginated).flatMap tokens = tail at keys ends
  have text : tokens (selection select clauses (order.toList.map SortKey.text) paginated) =
      .selectWord :: (tokens select ++ .fromWord :: .word tableName ::
        ((whereLines clauses).flatMap tokens ++ tail)) := by
    rw [selection, tokens_lines, ← behind]
    simp only [List.flatMap_append, List.flatMap_cons, List.flatMap_nil, tokens_indent,
      List.append_assoc]
    rfl
  have outside : ∀ token ∈ (.fromWord :: .word tableName ::
      ((whereLines clauses).flatMap tokens ++ tail) : List Token).head?,
      (token != .fromWord) = false := by simp
  obtain ⟨selected, behindSelected⟩ := cut_at _ (by simpa using plain) outside
  have kept : ∀ token ∈ (whereLines clauses).flatMap tokens, (!token.endsCondition) = true :=
    fun token member => by rw [inside token member, Bool.not_false]
  have ended : ∀ token ∈ tail.head?, (!token.endsCondition) = false :=
    fun token head => by rw [ends token head, Bool.not_true]
  obtain ⟨clauseTokens, behindClauses⟩ := cut_at _ kept ended
  rw [ofText?, text, ofTokens?, behindSelected]
  simp only [selected, ofClauses?, clauseTokens, behindClauses, condition, keys, window,
    Option.bind_eq_bind, Option.bind_some, Option.pure_def]

end AuditTrail.Sql
