import AuditTrail.Proofs.Query.Part

/-!
# Conditions told by looking back

The conditions of a list of tokens are told without the translator and the joiner that it carries
along: there is one condition for each effective token, in the order of the tokens, and it is
joined by the last joining keyword since the effective token before, or else by AND.
-/

namespace AuditTrail.Query

open Text

/-- The joining keywords among some tokens. -/
def joiners (tokens : List (List Char)) : List Joiner :=
  tokens.filterMap fun token => Joiner.ofWord? (trim token)

/-- The joiner of what follows some tokens: the last one behind the last effective token, or else
AND. -/
def IsPending (before : List (List Char)) (joiner : Joiner) : Prop :=
  ∃ front since, before = front ++ since ∧ (∀ token ∈ front.getLast?, IsEffective token) ∧
    (∀ token ∈ since, ¬ IsEffective token) ∧ joiner = (joiners since).getLast?.getD .and

/-- The condition of the token at a place: what the token asks for, joined by the joiner that is
found by looking back from there. -/
structure IsConditionAt (tokens : List (List Char)) (place : Nat) (condition : Condition) :
    Prop where
  asked : ∃ token, tokens[place]? = some token ∧ Asks token condition.column condition.term
  joined : ∃ joiner : Joiner, condition.operator = some joiner.word ∧
    IsPending (tokens.take place) joiner

section Step

variable {before : List (List Char)} {token : List Char} {pending : Joiner}

theorem isPending_nil : IsPending [] .and :=
  ⟨[], [], rfl, nofun, nofun, rfl⟩

theorem isPending_of_effective (effective : IsEffective token) :
    IsPending (before ++ [token]) .and := by
  refine ⟨before ++ [token], [], (List.append_nil _).symm, ?_, nofun, rfl⟩
  intro last found
  rw [List.getLast?_concat] at found
  exact Option.some.inj found ▸ effective

/-- From behind a token that is not effective the view reaches as far back as before it. -/
theorem IsPending.since (known : IsPending before pending) (idle : ¬ IsEffective token)
    {joiner : Joiner} (last : ∀ since, (joiners since).getLast?.getD .and = pending →
      (joiners (since ++ [token])).getLast?.getD .and = joiner) :
    IsPending (before ++ [token]) joiner := by
  obtain ⟨front, since, rfl, effective, others, counts⟩ := known
  refine ⟨front, since ++ [token], List.append_assoc _ _ _, effective, ?_,
    (last since counts.symm).symm⟩
  intro other member
  rcases List.mem_append.mp member with old | new
  · exact others other old
  · rwa [List.mem_singleton.mp new]

/-- A joining keyword replaces the joiner that was pending. -/
theorem IsPending.joiner (known : IsPending before pending) {joiner : Joiner}
    (keyword : Joiner.ofWord? (trim token) = some joiner) :
    IsPending (before ++ [token]) joiner := by
  apply known.since (not_isEffective_of_joiner keyword)
  intro since _
  simp [joiners, keyword]

/-- A token that is neither effective nor a joining keyword leaves the joiner as it is. -/
theorem IsPending.idle (known : IsPending before pending)
    (plain : Joiner.ofWord? (trim token) = none) (idle : ¬ IsEffective token) :
    IsPending (before ++ [token]) pending := by
  apply known.since idle
  intro since counts
  simpa [joiners, plain] using counts

end Step

/-- Whether some conditions are those of the effective tokens from a place on. -/
def AreConditionsFrom (tokens : List (List Char)) (start : Nat) (found : List Condition) : Prop :=
  ∃ places : List Nat, places.Pairwise (· < ·) ∧
    (∀ place, place ∈ places ↔
      start ≤ place ∧ ∃ token, tokens[place]? = some token ∧ IsEffective token) ∧
    List.Forall₂ (IsConditionAt tokens) places found

section Places

variable {before rest : List (List Char)} {token : List Char} {found : List Condition}

theorem areConditionsFrom_end (tokens : List (List Char)) :
    AreConditionsFrom tokens tokens.length [] := by
  refine ⟨[], .nil, fun place => ⟨nofun, ?_⟩, .nil⟩
  rintro ⟨late, token, present, _⟩
  rw [List.getElem?_eq_none late] at present
  cases present

theorem AreConditionsFrom.skip (idle : ¬ IsEffective token)
    (later : AreConditionsFrom (before ++ token :: rest) (before.length + 1) found) :
    AreConditionsFrom (before ++ token :: rest) before.length found := by
  obtain ⟨places, ordered, listed, made⟩ := later
  refine ⟨places, ordered, fun place => (listed place).trans ⟨?_, ?_⟩, made⟩
  · rintro ⟨late, effective⟩
    exact ⟨Nat.le_of_succ_le late, effective⟩
  · rintro ⟨late, other, present, effective⟩
    refine ⟨Nat.lt_of_le_of_ne late ?_, other, present, effective⟩
    rintro rfl
    obtain rfl : token = other := by simpa using present
    exact idle effective

theorem AreConditionsFrom.take {condition : Condition}
    (made : IsConditionAt (before ++ token :: rest) before.length condition)
    (later : AreConditionsFrom (before ++ token :: rest) (before.length + 1) found) :
    AreConditionsFrom (before ++ token :: rest) before.length (condition :: found) := by
  obtain ⟨places, ordered, listed, others⟩ := later
  refine ⟨before.length :: places, List.pairwise_cons.mpr ⟨?_, ordered⟩, ?_, .cons made others⟩
  · exact fun place member => ((listed place).mp member).1
  · intro place
    rw [List.mem_cons, listed]
    constructor
    · rintro (rfl | ⟨late, effective⟩)
      · obtain ⟨other, present, asks⟩ := made.asked
        exact ⟨Nat.le_refl _, other, present, _, _, asks⟩
      · exact ⟨Nat.le_of_succ_le late, effective⟩
    · rintro ⟨late, effective⟩
      rcases Nat.eq_or_lt_of_le late with same | later
      · exact .inl same.symm
      · exact .inr ⟨later, effective⟩

end Places

theorem isConditionAt_of_asks {before rest : List (List Char)} {token term : List Char}
    {column : Option (List Char)} {pending : Joiner} (known : IsPending before pending)
    (asks : Asks token column term) :
    IsConditionAt (before ++ token :: rest) before.length ⟨column, term, some pending.word⟩ where
  asked := ⟨token, by simp, asks⟩
  joined := ⟨pending, rfl, by simpa using known⟩

/-- Behind some tokens the translator makes the conditions of the effective tokens that follow,
if the joiner it carries along is the one that is found by looking back. -/
theorem areConditionsFrom_conditionsAfter {before : List (List Char)} {pending : Joiner}
    (known : IsPending before pending) (rest : List (List Char)) :
    AreConditionsFrom (before ++ rest) before.length
      (conditionsAfter pending (rest.map Part.ofToken)) := by
  induction rest generalizing before pending with
  | nil =>
      rw [List.append_nil]
      exact areConditionsFrom_end before
  | cons token rest ih =>
      have next : ∀ {joiner}, IsPending (before ++ [token]) joiner →
          AreConditionsFrom (before ++ token :: rest) (before.length + 1)
            (conditionsAfter joiner (rest.map Part.ofToken)) := by
        intro joiner looked
        simpa using ih looked
      have fits := fits_ofToken token
      rw [List.map_cons]
      generalize Part.ofToken token = part at fits
      cases part with
      | joiner joiner => exact .skip (not_isEffective_of_joiner fits) (next (known.joiner fits))
      | nothing => exact .skip fits.2 (next (known.idle fits.1 fits.2))
      | unknown name => exact .skip fits.2 (next (known.idle fits.1 fits.2))
      | named column term =>
          exact .take (isConditionAt_of_asks known fits)
            (next (isPending_of_effective ⟨_, _, fits⟩))
      | free term =>
          exact .take (isConditionAt_of_asks known fits)
            (next (isPending_of_effective ⟨_, _, fits⟩))

/-- There is one condition for each effective token, in the order of the tokens, joined by the
last joining keyword between the effective token before and its own, or else by AND. -/
theorem conditions_of_effective_tokens (tokens : List (List Char)) :
    ∃ places : List Nat, places.Pairwise (· < ·) ∧
      (∀ place, place ∈ places ↔ ∃ token, tokens[place]? = some token ∧ IsEffective token) ∧
      List.Forall₂ (IsConditionAt tokens) places (conditions tokens) := by
  obtain ⟨places, ordered, listed, made⟩ :=
    areConditionsFrom_conditionsAfter isPending_nil tokens
  exact ⟨places, ordered, fun place => by simpa using listed place, made⟩

end AuditTrail.Query
