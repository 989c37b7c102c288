import AuditTrail.Proofs.Query.Layout
import AuditTrail.Query.Compiled

/-!
# Named columns in texts and in tokens

Whether a column is named is asked of the text as a whole, and the translators see its tokens.
The two views agree: a word, the colon and the value stand side by side without a blank, so they
are never parted.  What a search text is made ready as is therefore a function of its tokens.
-/

namespace AuditTrail.Query

open Text

theorem isColumnSpecific_cons {c : Char} {text : List Char}
    (specific : isColumnSpecific text = true) : isColumnSpecific (c :: text) = true := by
  rw [isColumnSpecific.eq_def]
  split
  · next same =>
      obtain ⟨rfl, rfl⟩ := List.cons.inj same
      rw [specific, Bool.or_true]
  · next same =>
      obtain ⟨rfl, rfl⟩ := List.cons.inj same
      exact specific
  · next same => cases same

theorem isColumnSpecific_append (front : List Char) {text : List Char}
    (specific : isColumnSpecific text = true) : isColumnSpecific (front ++ text) = true := by
  induction front with
  | nil => exact specific
  | cons c rest ih => exact isColumnSpecific_cons ih

/-- A column is named where a word character, a colon and the beginning of a value stand side by
side. -/
theorem isColumnSpecific_iff {text : List Char} :
    isColumnSpecific text = true ↔
      ∃ a b, isWord a = true ∧ isBlank b = false ∧ b ≠ ')' ∧ [a, ':', b] <:+: text := by
  constructor
  · intro specific
    fun_induction isColumnSpecific text with
    | case1 a b rest ih =>
        rcases Bool.or_eq_true_iff.mp specific with here | later
        · simp only [Bool.and_eq_true, Bool.not_eq_true', bne_iff_ne] at here
          exact ⟨a, b, here.1.1, here.1.2, here.2, [], rest, rfl⟩
        · obtain ⟨a', b', word, filled, other, inside⟩ := ih later
          exact ⟨a', b', word, filled, other, List.infix_cons inside⟩
    | case2 c rest _ ih =>
        obtain ⟨a, b, word, filled, other, inside⟩ := ih specific
        exact ⟨a, b, word, filled, other, List.infix_cons inside⟩
    | case3 => cases specific
  · rintro ⟨a, b, word, filled, other, front, back, rfl⟩
    rw [List.append_assoc]
    apply isColumnSpecific_append
    simp [isColumnSpecific, word, filled, other]

theorem isColumnSpecific_of_infix {piece text : List Char}
    (specific : isColumnSpecific piece = true) (inside : piece <:+: text) :
    isColumnSpecific text = true := by
  obtain ⟨front, back, rfl⟩ := inside
  obtain ⟨a, b, word, filled, other, within⟩ := isColumnSpecific_iff.mp specific
  exact isColumnSpecific_iff.mpr ⟨a, b, word, filled, other, within.trans ⟨front, back, rfl⟩⟩

theorem IsLayout.infix_of_mem {tokens : List (List Char)} {text token : List Char}
    (layout : IsLayout tokens text) (member : token ∈ tokens) : token <:+: text := by
  induction layout with
  | nil => cases member
  | @last first gap _ _ _ =>
      rw [List.mem_singleton.mp member]
      exact (List.prefix_append first gap).isInfix
  | @cons first gap _ text _ _ _ _ _ _ ih =>
      rcases List.mem_cons.mp member with rfl | later
      · exact (List.prefix_append token (gap ++ text)).isInfix
      · have behind : text <:+ first ++ (gap ++ text) :=
          (List.suffix_append gap text).trans (List.suffix_append first (gap ++ text))
        exact (ih later).trans behind.isInfix

/-- A token that has begun is completed. -/
theorem exists_completed (text : List Char) (mark : Option Char) {begun : List Char}
    (filled : begun ≠ []) : ∃ token ∈ tokensAfter text mark begun, begun.reverse <+: token := by
  induction text generalizing mark begun with
  | nil =>
      rw [tokensAfter_nil, finished_of_ne filled]
      exact ⟨begun.reverse, List.mem_singleton_self _, List.prefix_rfl⟩
  | cons c rest ih =>
      rcases taken_or_parting mark c with taken | ⟨rfl, blank⟩
      · rw [tokensAfter_cons rest begun taken]
        obtain ⟨token, member, grown⟩ := ih (markAfter mark c) (List.cons_ne_nil c begun)
        rw [List.reverse_cons] at grown
        exact ⟨token, member, (List.prefix_append _ _).trans grown⟩
      · rw [tokensAfter_blank rest begun blank, finished_of_ne filled]
        exact ⟨begun.reverse, List.mem_cons_self, List.prefix_rfl⟩

theorem exists_token_after {piece : List Char} (filled : piece ≠ [])
    (plain : ∀ mark, IsUnbroken mark piece) (front back : List Char) (mark : Option Char)
    (begun : List Char) :
    ∃ token ∈ tokensAfter (front ++ (piece ++ back)) mark begun, piece <:+: token := by
  induction front generalizing mark begun with
  | nil =>
      rw [List.nil_append, tokensAfter_append back begun (plain mark)]
      have begins : piece.reverse ++ begun ≠ [] := by simp [filled]
      obtain ⟨token, member, grown⟩ := exists_completed back (piece.foldl markAfter mark) begins
      rw [List.reverse_append, List.reverse_reverse] at grown
      exact ⟨token, member, (List.suffix_append _ piece).isInfix.trans grown.isInfix⟩
  | cons c rest ih =>
      rw [List.cons_append]
      rcases taken_or_parting mark c with taken | ⟨rfl, blank⟩
      · rw [tokensAfter_cons _ begun taken]
        exact ih (markAfter mark c) (c :: begun)
      · rw [tokensAfter_blank _ begun blank]
        obtain ⟨token, member, inside⟩ := ih none []
        exact ⟨token, List.mem_append_right _ member, inside⟩

/-- A piece of a text without blanks lies in one token. -/
theorem exists_token_of_infix {piece text : List Char} (filled : piece ≠ [])
    (plain : ∀ mark, IsUnbroken mark piece) (inside : piece <:+: text) :
    ∃ token ∈ tokenize text, piece <:+: token := by
  obtain ⟨front, back, rfl⟩ := inside
  rw [List.append_assoc]
  exact exists_token_after filled plain front back none []

theorem infix_of_mem_tokenize {text token : List Char} (member : token ∈ tokenize text) :
    token <:+: text := by
  obtain ⟨front, body, rfl, _, layout⟩ := exists_layout_tokenize text
  exact (layout.infix_of_mem member).trans (List.suffix_append front body).isInfix

/-- A text names a column exactly when one of its tokens does. -/
theorem isColumnSpecific_iff_exists_token (text : List Char) :
    isColumnSpecific text = true ↔ ∃ token ∈ tokenize text, isColumnSpecific token = true := by
  constructor
  · intro specific
    obtain ⟨a, b, word, filled, other, inside⟩ := isColumnSpecific_iff.mp specific
    have unbroken : ∀ mark, IsUnbroken mark [a, ':', b] := fun _ =>
      ⟨.inr (not_isBlank_of_isWord word), .inr (by decide), .inr filled, trivial⟩
    obtain ⟨token, member, within⟩ := exists_token_of_infix (by simp) unbroken inside
    exact ⟨token, member, isColumnSpecific_iff.mpr ⟨a, b, word, filled, other, within⟩⟩
  · rintro ⟨token, member, specific⟩
    exact isColumnSpecific_of_infix specific (infix_of_mem_tokenize member)

/-- The classifier alone decides what a trimmed text is made ready as. -/
theorem compile_eq (text : List Char) :
    compile text = if isColumnSpecific (trim text) then
      ⟨true, [], conditions (tokenize (trim text))⟩
    else ⟨false, fullText (tokenize (trim text)), []⟩ := by
  rw [compile]
  cases trim text <;> rfl

/-- What the tokens of a search text are made ready as. -/
def ofTokens (tokens : List (List Char)) : Compiled :=
  if tokens.any isColumnSpecific then ⟨true, [], Query.conditions tokens⟩
  else ⟨false, fullText tokens, []⟩

theorem compile_eq_ofTokens (text : List Char) :
    compile text = ofTokens (tokenize (trim text)) := by
  have named : (tokenize (trim text)).any isColumnSpecific = isColumnSpecific (trim text) := by
    rw [Bool.eq_iff_iff, List.any_eq_true, isColumnSpecific_iff_exists_token]
  rw [compile_eq, ofTokens, named]

theorem IsLayout.isBlank_head {tokens : List (List Char)} {text : List Char}
    (layout : IsLayout tokens text) : ∀ c ∈ text.head?, isBlank c = false := by
  have starts : ∀ {token : List Char}, IsToken token → ∀ back, ∀ c ∈ (token ++ back).head?,
      isBlank c = false := by
    rintro token ⟨filled, unbroken⟩ back c head
    cases token with
    | nil => exact absurd rfl filled
    | cons d rest =>
        obtain rfl : d = c := Option.some.inj head
        exact unbroken.1.resolve_left Bool.false_ne_true
  cases layout with
  | nil => nofun
  | last whole => exact starts whole _
  | cons whole => exact starts whole _

theorem IsLayout.text_ne_nil {token text : List Char} {rest : List (List Char)}
    (layout : IsLayout (token :: rest) text) : text ≠ [] := by
  cases layout with
  | last whole => simp [whole.filled]
  | cons whole => simp [whole.filled]

/-- A text without blanks at its end keeps its end when its tokens are joined. -/
theorem IsLayout.getLast?_join {tokens : List (List Char)} {text : List Char}
    (layout : IsLayout tokens text) (trimmed : ∀ c ∈ text.getLast?, isBlank c = false) :
    (Text.join [' '] tokens).getLast? = text.getLast? := by
  induction layout with
  | nil => rfl
  | @last token gap whole blank _ =>
      have gapless : gap = [] := by
        by_contra apart
        have last := List.getLast?_eq_getLast_of_ne_nil apart
        have within := trimmed (gap.getLast apart)
          (by rw [List.getLast?_append_of_ne_nil token apart]; exact last)
        rw [blank _ (List.getLast_mem apart)] at within
        cases within
      rw [gapless]
      simp [join_cons]
  | @cons token gap next text rest _ _ _ apart later ih =>
      have behind : ∀ {back : List Char}, back ≠ [] →
          (token ++ (gap ++ back)).getLast? = back.getLast? := by
        intro back filled
        rw [List.getLast?_append_of_ne_nil token (by simp [filled]),
          List.getLast?_append_of_ne_nil gap filled]
      rw [behind later.text_ne_nil] at trimmed ⊢
      have step : Text.join [' '] (token :: next :: rest) =
          (token ++ [' ']) ++ Text.join [' '] (next :: rest) := by
        simp [join_cons]
      rw [step, List.getLast?_append_of_ne_nil _ later.join.text_ne_nil, ih trimmed]

/-- The joined tokens of a trimmed text are trimmed. -/
theorem trim_join_tokenize (text : List Char) :
    trim (join [' '] (tokenize (trim text))) = join [' '] (tokenize (trim text)) := by
  obtain ⟨front, body, split, gap, layout⟩ := exists_layout_tokenize (trim text)
  have frontless : front = [] := by
    cases front with
    | nil => rfl
    | cons c rest =>
        have head : c ∈ (trim text).head? := by
          rw [split]
          rfl
        have filled := head?_trimBy head
        rw [gap c List.mem_cons_self] at filled
        cases filled
  rw [frontless, List.nil_append] at split
  rw [← split] at layout
  apply trimBy_eq_self layout.join.isBlank_head
  rw [layout.getLast?_join fun c last => getLast?_trimBy last]
  exact fun c last => getLast?_trimBy last

/-- A text names a column exactly when one of its tokens does, so search texts with the same
tokens are made ready alike, and so is the text of the tokens with single blanks between them. -/
theorem compile_depends_on_tokens (text : List Char) :
    (isColumnSpecific text = true ↔ ∃ token ∈ tokenize text, isColumnSpecific token = true) ∧
      (∀ other, tokenize (trim text) = tokenize (trim other) → compile text = compile other) ∧
      compile text = compile (join [' '] (tokenize (trim text))) := by
  refine ⟨isColumnSpecific_iff_exists_token text, fun other same => ?_, ?_⟩
  · rw [compile_eq_ofTokens, compile_eq_ofTokens, same]
  · obtain ⟨_, _, _, _, layout⟩ := exists_layout_tokenize (trim text)
    rw [compile_eq_ofTokens, compile_eq_ofTokens (join _ _), trim_join_tokenize,
      layout.join.tokenize_eq]

/-- Blanks of any kind and number between the tokens make no difference. -/
theorem compile_depends_on_tokens_spaced :
    tokenize (trim " status:'a  b'\t or\nc".toList) =
        tokenize (trim "status:'a  b' or  c ".toList) ∧
      compile " status:'a  b'\t or\nc".toList = compile "status:'a  b' or  c ".toList :=
  have same : tokenize (trim " status:'a  b'\t or\nc".toList) =
      tokenize (trim "status:'a  b' or  c ".toList) := by decide
  ⟨same, (compile_depends_on_tokens _).2.1 _ same⟩

end AuditTrail.Query
