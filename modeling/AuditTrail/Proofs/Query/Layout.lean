import AuditTrail.Proofs.Query.Token
import AuditTrail.Proofs.Text.Blank

/-!
# Texts as tokens and blanks

A text is a row of tokens with blanks around them, and only one row of tokens is possible: blanks
inside quotation marks belong to their token, all others part two tokens.  So the tokens hold
everything but the blanks outside quotation marks, and any other blanks between the same tokens
give the same tokens again.
-/

namespace AuditTrail.Query

open Text

/-- A text of blanks. -/
def IsGap (gap : List Char) : Prop := ∀ c ∈ gap, isBlank c = true

/-- A text that can be a token, whether or not it leaves a quotation mark open. -/
structure IsToken (text : List Char) : Prop where
  filled : text ≠ []
  unbroken : IsUnbroken none text

/-- A row of tokens, each with the blanks behind it.  Every token but the last closes its
quotation marks, and a mark that the last one leaves open lets no blanks follow. -/
inductive IsLayout : List (List Char) → List Char → Prop
  | nil : IsLayout [] []
  | last {token gap : List Char} (whole : IsToken token) (blank : IsGap gap)
      (ends : token.foldl markAfter none ≠ none → gap = []) :
      IsLayout [token] (token ++ gap)
  | cons {token gap next text : List Char} {rest : List (List Char)} (whole : IsToken token)
      (closed : token.foldl markAfter none = none) (blank : IsGap gap) (apart : gap ≠ [])
      (later : IsLayout (next :: rest) text) :
      IsLayout (token :: next :: rest) (token ++ (gap ++ text))

/-- A text without the blanks outside quotation marks. -/
def withoutGaps : Option Char → List Char → List Char
  | _, [] => []
  | mark, c :: rest =>
      if mark.isNone && isBlank c then withoutGaps mark rest
      else c :: withoutGaps (markAfter mark c) rest

theorem isGap_space : IsGap [' '] := by
  intro c member
  rw [List.mem_singleton.mp member]
  decide

theorem IsSolid.isToken {text : List Char} (solid : IsSolid text) (filled : text ≠ []) :
    IsToken text :=
  ⟨filled, solid.unbroken⟩

theorem IsToken.finished_reverse {token : List Char} (whole : IsToken token) :
    finished token.reverse = [token] := by
  rw [finished_of_ne (by simpa using whole.filled), List.reverse_reverse]

theorem tokensAfter_gap {gap : List Char} (blank : IsGap gap) (rest begun : List Char)
    (apart : gap ≠ [] ∨ begun = []) :
    tokensAfter (gap ++ rest) none begun = finished begun ++ tokensAfter rest none [] := by
  induction gap generalizing begun with
  | nil =>
      obtain rfl := apart.resolve_left fun empty => empty rfl
      rfl
  | cons c more ih =>
      have later := ih (fun d member => blank d (List.mem_cons_of_mem c member)) [] (.inr rfl)
      rw [List.cons_append, tokensAfter_blank _ _ (blank c List.mem_cons_self), later]
      rfl

theorem IsToken.tokenize_append {token : List Char} (whole : IsToken token) (rest : List Char) :
    tokenize (token ++ rest) =
      tokensAfter rest (token.foldl markAfter none) token.reverse := by
  rw [tokenize, tokensAfter_append rest [] whole.unbroken, List.append_nil]

/-- The tokens of a layout are found again. -/
theorem IsLayout.tokenize_eq {tokens : List (List Char)} {text : List Char}
    (layout : IsLayout tokens text) : tokenize text = tokens := by
  induction layout with
  | nil => rfl
  | @last token gap whole blank ends =>
      rw [whole.tokenize_append]
      by_cases closed : token.foldl markAfter none = none
      · rw [closed]
        cases gap with
        | nil => rw [tokensAfter_nil, whole.finished_reverse]
        | cons c more =>
            have behind := tokensAfter_gap blank [] token.reverse (.inl (by simp))
            rw [List.append_nil] at behind
            rw [behind, whole.finished_reverse]
            rfl
      · rw [ends closed, tokensAfter_nil, whole.finished_reverse]
  | cons whole closed blank apart later ih =>
      rw [whole.tokenize_append, closed, tokensAfter_gap blank _ _ (.inl apart),
        whole.finished_reverse]
      exact congrArg (_ :: ·) ih

theorem IsLayout.behind {token gap text : List Char} {tokens : List (List Char)}
    (whole : IsToken token) (closed : token.foldl markAfter none = none) (blank : IsGap gap)
    (apart : gap ≠ []) (later : IsLayout tokens text) :
    IsLayout (token :: tokens) (token ++ (gap ++ text)) := by
  cases tokens with
  | nil =>
      cases later
      rw [List.append_nil]
      exact .last whole blank fun opened => absurd closed opened
  | cons next rest => exact .cons whole closed blank apart later

/-- Whether a token that has begun and the text behind it are laid out as some tokens.  No blanks
stand in front of a token that has begun. -/
def IsLaidOut (begun text : List Char) (tokens : List (List Char)) : Prop :=
  ∃ front body, begun.reverse ++ text = front ++ body ∧ IsGap front ∧ (begun ≠ [] → front = []) ∧
    IsLayout tokens body

section Step

variable {c : Char} {begun rest : List Char} {tokens : List (List Char)}

theorem isLaidOut_finished (unbroken : IsUnbroken none begun.reverse) :
    IsLaidOut begun [] (finished begun) := by
  cases begun with
  | nil => exact ⟨[], [], rfl, nofun, fun _ => rfl, .nil⟩
  | cons c begun =>
      have whole : IsToken (c :: begun).reverse := ⟨by simp, unbroken⟩
      rw [finished_of_ne (List.cons_ne_nil c begun)]
      exact ⟨[], _, rfl, nofun, fun _ => rfl, .last whole nofun fun _ => rfl⟩

theorem IsLaidOut.grown (later : IsLaidOut (c :: begun) rest tokens) :
    IsLaidOut begun (c :: rest) tokens := by
  obtain ⟨front, body, split, _, start, layout⟩ := later
  obtain rfl := start (List.cons_ne_nil c begun)
  rw [List.reverse_cons, List.append_assoc] at split
  exact ⟨[], body, split, nofun, fun _ => rfl, layout⟩

/-- A blank goes in front of the rest, or behind the token that it ends. -/
theorem IsLaidOut.parted (unbroken : IsUnbroken none begun.reverse)
    (closed : begun.reverse.foldl markAfter none = none) (blank : isBlank c = true)
    (later : IsLaidOut [] rest tokens) :
    IsLaidOut begun (c :: rest) (finished begun ++ tokens) := by
  obtain ⟨front, body, split, gap, _, layout⟩ := later
  rw [List.reverse_nil, List.nil_append] at split
  have longer : IsGap (c :: front) := by
    intro d member
    rcases List.mem_cons.mp member with rfl | old
    · exact blank
    · exact gap d old
  cases begun with
  | nil =>
      refine ⟨c :: front, body, ?_, longer, fun filled => absurd rfl filled, layout⟩
      rw [split]
      rfl
  | cons b begun =>
      have whole : IsToken (b :: begun).reverse := ⟨by simp, unbroken⟩
      refine ⟨[], _, ?_, nofun, fun _ => rfl,
        .behind whole closed longer (List.cons_ne_nil c front) layout⟩
      rw [split]
      rfl

end Step

theorem isLaidOut_tokensAfter (text begun : List Char) (unbroken : IsUnbroken none begun.reverse) :
    IsLaidOut begun text (tokensAfter text (begun.reverse.foldl markAfter none) begun) := by
  induction text generalizing begun with
  | nil =>
      rw [tokensAfter_nil]
      exact isLaidOut_finished unbroken
  | cons c rest ih =>
      rcases taken_or_parting (begun.reverse.foldl markAfter none) c with taken | ⟨closed, blank⟩
      · have longer : IsUnbroken none (c :: begun).reverse := by
          rw [List.reverse_cons]
          exact isUnbroken_append.mpr ⟨unbroken, taken, trivial⟩
        have later := ih (c :: begun) longer
        rw [List.reverse_cons, List.foldl_append] at later
        rw [tokensAfter_cons rest begun taken]
        exact later.grown
      · rw [closed, tokensAfter_blank rest begun blank]
        exact (ih [] trivial).parted unbroken closed blank

/-- Every text is laid out as its tokens, behind some blanks. -/
theorem exists_layout_tokenize (text : List Char) :
    ∃ front body, text = front ++ body ∧ IsGap front ∧ IsLayout (tokenize text) body := by
  obtain ⟨front, body, split, gap, _, layout⟩ := isLaidOut_tokensAfter text [] trivial
  exact ⟨front, body, split, gap, layout⟩

theorem flatten_tokensAfter (text : List Char) (mark : Option Char) (begun : List Char) :
    (tokensAfter text mark begun).flatten = begun.reverse ++ withoutGaps mark text := by
  induction text generalizing mark begun with
  | nil =>
      rw [tokensAfter_nil, finished]
      cases begun <;> simp [withoutGaps]
  | cons c rest ih =>
      rcases taken_or_parting mark c with taken | ⟨rfl, blank⟩
      · have kept : (mark.isNone && isBlank c) = false := by
          rcases taken with inside | filled
          · rw [Option.isNone_eq_false_iff.mpr inside, Bool.false_and]
          · rw [filled, Bool.and_false]
        rw [tokensAfter_cons rest begun taken, ih, withoutGaps, kept]
        simp
      · rw [tokensAfter_blank rest begun blank, List.flatten_append, ih, withoutGaps, blank,
          finished]
        cases begun <;> simp

/-- The tokens of a text are the only ones that it can be laid out as, and they hold all of its
characters but the blanks outside quotation marks. -/
theorem tokenize_eq_iff_isLayout (text : List Char) (tokens : List (List Char)) :
    (tokenize text = tokens ↔
        ∃ front body, text = front ++ body ∧ IsGap front ∧ IsLayout tokens body) ∧
      (tokenize text).flatten = withoutGaps none text := by
  refine ⟨⟨?laidOut, ?unique⟩, flatten_tokensAfter text none []⟩
  case laidOut =>
    rintro rfl
    exact exists_layout_tokenize text
  case unique =>
    rintro ⟨front, body, rfl, gap, layout⟩
    rw [tokenize, tokensAfter_gap gap body [] (.inr rfl)]
    exact layout.tokenize_eq

/-- The same tokens can be laid out with single blanks between them. -/
theorem IsLayout.join {tokens : List (List Char)} {text : List Char}
    (layout : IsLayout tokens text) : IsLayout tokens (join [' '] tokens) := by
  induction layout with
  | nil => exact .nil
  | @last token gap whole _ _ =>
      have alone : Text.join [' '] [token] = token ++ [] := by simp [join_cons]
      rw [alone]
      exact .last whole nofun fun _ => rfl
  | @cons token gap next text rest whole closed _ _ _ ih =>
      have step : Text.join [' '] (token :: next :: rest) =
          token ++ ([' '] ++ Text.join [' '] (next :: rest)) := by
        simp [join_cons]
      rw [step]
      exact .cons whole closed isGap_space (by simp) ih

/-- Solid texts with blanks between them are the tokens of the text that they make up. -/
theorem tokenize_join {pieces : List (List Char)}
    (solid : ∀ piece ∈ pieces, IsSolid piece ∧ piece ≠ []) :
    tokenize (join [' '] pieces) = pieces := by
  suffices ∃ text, IsLayout pieces text by
    obtain ⟨_, layout⟩ := this
    exact layout.join.tokenize_eq
  induction pieces with
  | nil => exact ⟨[], .nil⟩
  | cons piece rest ih =>
      obtain ⟨text, later⟩ := ih fun other member => solid other (List.mem_cons_of_mem piece member)
      obtain ⟨whole, filled⟩ := solid piece List.mem_cons_self
      exact ⟨_, .behind (whole.isToken filled) whole.closed isGap_space (by simp) later⟩

/-- The tokens of a text, joined by single blanks, are the tokens of that text again. -/
theorem tokenize_join_tokenize (text : List Char) :
    tokenize (join [' '] (tokenize text)) = tokenize text := by
  obtain ⟨_, _, _, _, layout⟩ := exists_layout_tokenize text
  exact layout.join.tokenize_eq

end AuditTrail.Query
