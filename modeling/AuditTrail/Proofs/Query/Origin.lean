import AuditTrail.Proofs.Query.Part

/-!
# Where conditions come from

The translator goes through the tokens once and adds at most one condition at each of them.  The
token at which the number of conditions grows past an index is the one that the condition at this
index comes from, and the condition says what this token asks for.
-/

namespace AuditTrail.Query

open Text

namespace Part

/-- The joiner that is pending behind a part. -/
def next (pending : Joiner) : Part → Joiner
  | .nothing | .unknown _ => pending
  | .joiner found => found
  | .named _ _ | .free _ => .and

/-- The condition that a part makes, if it makes one. -/
def made? (pending : Joiner) : Part → Option Condition
  | .nothing | .unknown _ | .joiner _ => none
  | .named column term => some ⟨some column.name.toList, term, some pending.word⟩
  | .free term => some ⟨none, term, some pending.word⟩

end Part

theorem conditionsAfter_cons (pending : Joiner) (part : Part) (rest : List Part) :
    conditionsAfter pending (part :: rest) =
      (part.made? pending).toList ++ conditionsAfter (part.next pending) rest := by
  cases part <;> rfl

theorem conditionsAfter_append (pending : Joiner) (front back : List Part) :
    conditionsAfter pending (front ++ back) =
      conditionsAfter pending front ++
        conditionsAfter (front.foldl Part.next pending) back := by
  induction front generalizing pending with
  | nil => rfl
  | cons part rest ih =>
      rw [List.cons_append, conditionsAfter_cons, conditionsAfter_cons, ih, List.append_assoc,
        List.foldl_cons]

/-- The joiner that is pending behind some tokens. -/
def pendingBehind (tokens : List (List Char)) : Joiner :=
  (tokens.map Part.ofToken).foldl Part.next .and

theorem conditions_append (front back : List (List Char)) :
    conditions (front ++ back) =
      conditions front ++ conditionsAfter (pendingBehind front) (back.map Part.ofToken) := by
  rw [conditions, List.map_append, conditionsAfter_append]
  rfl

theorem conditions_concat (front : List (List Char)) (token : List Char) :
    conditions (front ++ [token]) =
      conditions front ++ ((Part.ofToken token).made? (pendingBehind front)).toList := by
  rw [conditions_append, List.map_singleton, conditionsAfter_cons, conditionsAfter,
    List.append_nil]

/-- What a token adds to the conditions is what it asks for. -/
theorem asks_of_made? {token : List Char} {pending : Joiner} {condition : Condition}
    (made : (Part.ofToken token).made? pending = some condition) :
    Asks token condition.column condition.term := by
  have fits := fits_ofToken token
  generalize Part.ofToken token = part at fits made
  cases part with
  | nothing => cases made
  | unknown => cases made
  | joiner => cases made
  | named column term =>
      obtain rfl := Option.some.inj made
      exact fits
  | free term =>
      obtain rfl := Option.some.inj made
      exact fits

/-- Whether the condition at an index comes from a token: the number of conditions grows past the
index there. -/
def ComesFrom (tokens : List (List Char)) (index : Nat) (token : List Char) : Prop :=
  ∃ before after, tokens = before ++ token :: after ∧ (conditions before).length = index ∧
    (conditions (before ++ [token])).length = index + 1

theorem ComesFrom.mem {tokens : List (List Char)} {index : Nat} {token : List Char}
    (origin : ComesFrom tokens index token) : token ∈ tokens := by
  obtain ⟨before, after, rfl, _⟩ := origin
  exact List.mem_append_right before List.mem_cons_self

theorem ComesFrom.append {tokens : List (List Char)} {index : Nat} {token : List Char}
    (origin : ComesFrom tokens index token) (more : List (List Char)) :
    ComesFrom (tokens ++ more) index token := by
  obtain ⟨before, after, rfl, grown⟩ := origin
  exact ⟨before, after ++ more, by simp, grown⟩

/-- Every condition comes from a token. -/
theorem exists_comesFrom {tokens : List (List Char)} {index : Nat}
    (inside : index < (conditions tokens).length) : ∃ token, ComesFrom tokens index token := by
  induction tokens using List.reverseRecOn with
  | nil => exact absurd inside (Nat.not_lt_zero index)
  | append_singleton front token ih =>
      by_cases old : index < (conditions front).length
      · obtain ⟨found, origin⟩ := ih old
        exact ⟨found, origin.append [token]⟩
      · have longer := inside
        rw [conditions_concat, List.length_append] at longer
        have single := Option.length_toList_le
          (o := (Part.ofToken token).made? (pendingBehind front))
        refine ⟨token, front, [], rfl, by omega, ?_⟩
        rw [conditions_concat, List.length_append]
        omega

theorem ComesFrom.exists_condition {tokens : List (List Char)} {index : Nat} {token : List Char}
    (origin : ComesFrom tokens index token) :
    ∃ condition, (conditions tokens)[index]? = some condition := by
  obtain ⟨before, after, rfl, _, grown⟩ := origin
  have split : before ++ token :: after = (before ++ [token]) ++ after := by simp
  have inside : index < (conditions (before ++ token :: after)).length := by
    rw [split, conditions_append, List.length_append]
    omega
  exact ⟨_, List.getElem?_eq_getElem inside⟩

/-- A condition says what the token that it comes from asks for. -/
theorem ComesFrom.asks {tokens : List (List Char)} {index : Nat} {token : List Char}
    {condition : Condition} (origin : ComesFrom tokens index token)
    (found : (conditions tokens)[index]? = some condition) :
    Asks token condition.column condition.term := by
  obtain ⟨before, after, rfl, rfl, grown⟩ := origin
  have split : before ++ token :: after = (before ++ [token]) ++ after := by simp
  rw [split, conditions_append, List.getElem?_append_left (by omega), conditions_concat,
    List.getElem?_append_right (Nat.le_refl _), Nat.sub_self] at found
  cases made : (Part.ofToken token).made? (pendingBehind before) with
  | none => simp [made] at found
  | some other =>
      obtain rfl : other = condition := by simpa [made] using found
      exact asks_of_made? made

end AuditTrail.Query
