import AuditTrail.Proofs.Sql.Formula

/-!
# How joined factors are read

Tokens that are read as one factor can stand wherever an operand has to follow.  Factors joined by
AND and OR are read as the disjunction of their runs, and in parentheses they are one factor again.
-/

namespace AuditTrail.Sql

open Text Query

namespace Formula

/-- A formula behind the alternatives that ended before it. -/
def orLast (ended : Option Formula) (last : Formula) : Formula :=
  match ended with
  | some before => .or before last
  | none => last

/-- Joined formulas behind the alternatives that have ended and the one that is open. -/
def joinedAfter (ended : Option Formula) (current : Formula) : List (Joiner × Formula) → Formula
  | [] => orLast ended current
  | (.and, next) :: rest => joinedAfter ended (.and current next) rest
  | (.or, next) :: rest => joinedAfter (some (orLast ended current)) next rest

/-- Joined formulas, where AND binds tighter than OR. -/
def joined (first : Formula) (rest : List (Joiner × Formula)) : Formula :=
  joinedAfter none first rest

end Formula

namespace Database

variable {ρ : Type} (database : Database ρ) (row : ρ) (bindings : Bindings)

theorem holds_orLast (ended : Option Formula) (last : Formula) :
    database.holds row bindings (.orLast ended last) =
      (ended.any (database.holds row bindings) || database.holds row bindings last) := by
  cases ended with
  | none => rfl
  | some before => exact holds_or database row bindings before last

theorem holds_joinedAfter (ended : Option Formula) (current : Formula)
    (rest : List (Joiner × Formula)) :
    database.holds row bindings (.joinedAfter ended current rest) =
      (ended.any (database.holds row bindings) ||
        openRun Prod.fst (fun next => database.holds row bindings next.2)
          (database.holds row bindings current) rest) := by
  induction rest generalizing ended current with
  | nil => exact holds_orLast database row bindings ended current
  | cons next rest ih =>
      obtain ⟨joiner, next⟩ := next
      cases joiner with
      | and => rw [Formula.joinedAfter, ih, holds_and, openRun]
      | or => simp only [Formula.joinedAfter, ih, openRun, Option.any_some, holds_orLast,
          Bool.or_assoc]

/-- Joined formulas hold when one of their runs holds. -/
theorem holds_joined (first : Formula) (rest : List (Joiner × Formula)) :
    database.holds row bindings (.joined first rest) =
      openRun Prod.fst (fun next => database.holds row bindings next.2)
        (database.holds row bindings first) rest := by
  rw [Formula.joined, holds_joinedAfter]
  rfl

end Database

/-- Tokens that write some items whatever follows. -/
def Writes (written : List Token) (items : List Item) : Prop :=
  ∀ rest, items? (written ++ rest) = (items? rest).map fun later => items ++ later

theorem Writes.append {front back : List Token} {before after : List Item}
    (first : Writes front before) (second : Writes back after) :
    Writes (front ++ back) (before ++ after) := by
  intro rest
  rw [List.append_assoc, first, second, Option.map_map]
  simp only [Function.comp_def, List.append_assoc]

theorem Writes.nil : Writes [] [] := by
  intro rest
  simp

theorem Writes.opening : Writes [.opening] [.opening] := fun _ => rfl

theorem Writes.closing : Writes [.closing] [.closing] := fun _ => rfl

/-- Whether a token ends the condition of a statement. -/
def Token.endsCondition (token : Token) : Bool := token == .orderWord || token == .limitWord

/-- Tokens that are read as one factor of a condition. -/
structure IsFactor (written : List Token) (formula : Formula) : Prop where
  read : ∃ items, Writes written items ∧ ∀ level outer,
    items.foldlM Reader.step ⟨true, level, outer⟩ = some ⟨false, level.addFactor formula, outer⟩
  inside : ∀ token ∈ written, token.endsCondition = false

/-- A single comparison is a factor. -/
theorem IsFactor.atom {written : List Token} {atom : Atom}
    (writes : Writes written [.operand atom])
    (inside : ∀ token ∈ written, token.endsCondition = false) :
    IsFactor written (.atom atom) :=
  ⟨⟨[.operand atom], writes, fun _ _ => rfl⟩, inside⟩

/-- The token of a joiner. -/
def joinerToken : Joiner → Token
  | .and => .andWord
  | .or => .orWord

theorem Writes.joiner (joiner : Joiner) : Writes [joinerToken joiner] [.joiner joiner] := by
  cases joiner <;> exact fun _ => rfl

theorem inside_joiner (joiner : Joiner) : (joinerToken joiner).endsCondition = false := by
  cases joiner <;> rfl

/-- The tokens of joined factors behind the first. -/
def joinedTokens (rest : List (Joiner × List Token)) : List Token :=
  rest.flatMap fun next => joinerToken next.1 :: next.2

/-- Factors with their joiners and the formulas that they are read as. -/
abbrev AreFactors (written : List (Joiner × List Token)) (formulas : List (Joiner × Formula)) :
    Prop :=
  List.Forall₂ (fun text formula => text.1 = formula.1 ∧ IsFactor text.2 formula.2)
    written formulas

theorem AreFactors.inside {written : List (Joiner × List Token)}
    {formulas : List (Joiner × Formula)} (factors : AreFactors written formulas) :
    ∀ token ∈ joinedTokens written, token.endsCondition = false := by
  induction factors with
  | nil => simp [joinedTokens]
  | cons first _ ih =>
      intro token member
      rw [joinedTokens, List.flatMap_cons, List.mem_append, List.mem_cons] at member
      rcases member with (joiner | own) | later
      · rw [joiner]
        exact inside_joiner _
      · exact first.2.inside token own
      · exact ih token later

/-- The induction follows the factors; what is known of the level so far is its ended alternatives
and the open one. -/
theorem AreFactors.read {written : List (Joiner × List Token)}
    {formulas : List (Joiner × Formula)} (factors : AreFactors written formulas) :
    ∃ items, Writes (joinedTokens written) items ∧ ∀ ended current outer, ∃ level : Level,
      items.foldlM Reader.step ⟨false, ⟨ended, some current⟩, outer⟩ =
        some ⟨false, level, outer⟩ ∧
      level.formula? = some (.joinedAfter ended current formulas) := by
  induction factors with
  | nil =>
      refine ⟨[], Writes.nil, fun ended current outer => ⟨⟨ended, some current⟩, rfl, ?_⟩⟩
      cases ended <;> rfl
  | @cons text formula _ _ first _ ih =>
      obtain ⟨joiner, text⟩ := text
      obtain ⟨_, formula⟩ := formula
      obtain ⟨rfl, first⟩ := first
      obtain ⟨own, writesOwn, readsOwn⟩ := first.read
      obtain ⟨later, writesLater, readsLater⟩ := ih
      have writes := ((Writes.joiner joiner).append writesOwn).append writesLater
      refine ⟨([.joiner joiner] ++ own) ++ later, by simpa [joinedTokens] using writes, ?_⟩
      intro ended current outer
      cases joiner with
      | and =>
          obtain ⟨level, result, whole⟩ := readsLater ended (.and current formula) outer
          refine ⟨level, ?_, whole⟩
          rw [List.foldlM_append, List.foldlM_append]
          simp only [List.foldlM_cons, List.foldlM_nil, Reader.step, Option.pure_def,
            Option.bind_eq_bind, Option.bind_some, readsOwn]
          exact result
      | or =>
          obtain ⟨level, result, whole⟩ :=
            readsLater (some (.orLast ended current)) formula outer
          refine ⟨level, ?_, whole⟩
          rw [List.foldlM_append, List.foldlM_append]
          simp only [List.foldlM_cons, List.foldlM_nil, Reader.step, Option.pure_def,
            Option.bind_eq_bind, Option.bind_some, readsOwn]
          rw [← result]
          cases ended <;> rfl

/-- Joined factors are read as the disjunction of their runs. -/
theorem IsFactor.joined {first : List Token} {formula : Formula}
    {written : List (Joiner × List Token)} {formulas : List (Joiner × Formula)}
    (leading : IsFactor first formula) (factors : AreFactors written formulas) :
    ∃ items, Writes (first ++ joinedTokens written) items ∧ ∀ outer, ∃ level : Level,
      items.foldlM Reader.step ⟨true, .empty, outer⟩ = some ⟨false, level, outer⟩ ∧
      level.formula? = some (.joined formula formulas) := by
  obtain ⟨own, writesOwn, readsOwn⟩ := leading.read
  obtain ⟨later, writesLater, readsLater⟩ := factors.read
  refine ⟨own ++ later, writesOwn.append writesLater, fun outer => ?_⟩
  obtain ⟨level, result, whole⟩ := readsLater none formula outer
  refine ⟨level, ?_, whole⟩
  rw [List.foldlM_append, readsOwn]
  exact result

/-- Joined factors in parentheses are one factor. -/
theorem IsFactor.parenthesized {first : List Token} {formula : Formula}
    {written : List (Joiner × List Token)} {formulas : List (Joiner × Formula)}
    (leading : IsFactor first formula) (factors : AreFactors written formulas) :
    IsFactor (.opening :: (first ++ joinedTokens written) ++ [.closing])
      (.joined formula formulas) := by
  obtain ⟨own, writes, reads⟩ := leading.joined factors
  have whole := (Writes.opening.append writes).append Writes.closing
  refine ⟨⟨([.opening] ++ own) ++ [.closing], by simpa using whole, ?_⟩, ?_⟩
  · intro level outer
    obtain ⟨inner, result, whole⟩ := reads (level :: outer)
    rw [List.foldlM_append, List.foldlM_append]
    simp only [List.foldlM_cons, List.foldlM_nil, Reader.step, Option.pure_def,
      Option.bind_eq_bind, Option.bind_some, result, whole, Option.map_some]
  · intro token member
    simp only [List.cons_append, List.mem_cons, List.mem_append, List.not_mem_nil, or_false]
      at member
    rcases member with opening | (own | later) | closing
    · rw [opening]
      rfl
    · exact leading.inside token own
    · exact factors.inside token later
    · rw [closing]
      rfl

/-- The formula of joined factors up to the end of the text. -/
theorem IsFactor.formula_joined {first : List Token} {formula : Formula}
    {written : List (Joiner × List Token)} {formulas : List (Joiner × Formula)}
    (leading : IsFactor first formula) (factors : AreFactors written formulas) :
    Formula.ofTokens? (first ++ joinedTokens written) = some (.joined formula formulas) := by
  obtain ⟨own, writes, reads⟩ := leading.joined factors
  obtain ⟨level, result, whole⟩ := reads []
  have items : items? (first ++ joinedTokens written) = some own := by
    have alone := writes []
    rw [List.append_nil] at alone
    rw [alone]
    simp [items?]
  simp only [Formula.ofTokens?, items, Option.bind_eq_bind, Option.bind_some, Reader.start,
    result]
  exact whole

end AuditTrail.Sql
