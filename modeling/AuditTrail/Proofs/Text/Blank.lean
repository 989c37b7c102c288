import AuditTrail.Text.Blank
import AuditTrail.Text.Word
import Mathlib.Data.List.DropRight

/-!
# Trimmed texts, words and joined texts

Trimming once is enough, and words are made of the characters of their text that are no blanks.
-/

namespace AuditTrail.Text

/-- No word character is a blank. -/
theorem not_isBlank_of_isWord {c : Char} (word : isWord c = true) : isBlank c = false := by
  by_contra blank
  have table : ∀ point ∈ List.range' 9 5 ++ List.range' 0x1C 4 ++ List.range' 0x2000 11 ++
      blankPoints, isWord (Char.ofNat point) = false := by decide +kernel
  have listed : c.toNat ∈ List.range' 9 5 ++ List.range' 0x1C 4 ++ List.range' 0x2000 11 ++
      blankPoints := by
    simp only [isBlank, Bool.not_eq_false, Bool.or_eq_true, Bool.and_eq_true, decide_eq_true_eq,
      List.contains_iff_mem] at blank
    simp only [List.mem_append, List.mem_range'_1]
    rcases blank with ((breaks | separators) | spaces) | other
    · exact .inl (.inl (.inl (by omega)))
    · exact .inl (.inl (.inr (by omega)))
    · exact .inl (.inr (by omega))
    · exact .inr other
  have entry := table c.toNat listed
  rw [Char.ofNat_toNat, word] at entry
  cases entry

theorem trimEndBy_eq_rdropWhile (p : Char → Bool) (text : List Char) :
    trimEndBy p text = text.rdropWhile p := rfl

/-- Nothing is left to drop in front of a text that was trimmed at its end after its front. -/
theorem dropWhile_trimBy (p : Char → Bool) (text : List Char) :
    (trimBy p text).dropWhile p = trimBy p text := by
  rw [trimBy, trimEndBy_eq_rdropWhile]
  generalize dropped : text.dropWhile p = rest
  have front : ∀ c ∈ rest.head?, p c = false := by
    intro c head
    rw [← dropped] at head
    have := List.head?_dropWhile_not p text
    rw [head] at this
    simpa using this
  cases kept : rest.rdropWhile p with
  | nil => rfl
  | cons c more =>
      obtain ⟨tail, split⟩ := List.rdropWhile_prefix p (l := rest)
      rw [kept] at split
      have stays : p c = false := front c (by rw [← split]; rfl)
      rw [List.dropWhile_cons_of_neg (by simp [stays])]

@[simp]
theorem trimBy_trimBy (p : Char → Bool) (text : List Char) :
    trimBy p (trimBy p text) = trimBy p text := by
  conv_lhs => rw [trimBy, dropWhile_trimBy]
  rw [trimBy, trimEndBy_eq_rdropWhile, trimEndBy_eq_rdropWhile]
  exact List.rdropWhile_idempotent p _

@[simp]
theorem trim_trim (text : List Char) : trim (trim text) = trim text :=
  trimBy_trimBy isBlank text

theorem head?_trimBy {p : Char → Bool} {text : List Char} {c : Char}
    (head : c ∈ (trimBy p text).head?) : p c = false := by
  rw [← dropWhile_trimBy] at head
  have stops := List.head?_dropWhile_not p (trimBy p text)
  rw [head] at stops
  simpa using stops

theorem getLast?_trimBy {p : Char → Bool} {text : List Char} {c : Char}
    (last : c ∈ (trimBy p text).getLast?) : p c = false := by
  rw [trimBy, trimEndBy_eq_rdropWhile] at last
  have stops := List.rdropWhile_last_not p (text.dropWhile p)
    (List.ne_nil_of_mem (List.mem_of_getLast? last))
  rw [List.getLast_of_mem_getLast? last] at stops
  simpa using stops

/-- A text whose ends are not in a class stays as it is. -/
theorem trimBy_eq_self {p : Char → Bool} {text : List Char}
    (front : ∀ c ∈ text.head?, p c = false) (back : ∀ c ∈ text.getLast?, p c = false) :
    trimBy p text = text := by
  have begun : text.dropWhile p = text := by
    cases text with
    | nil => rfl
    | cons c rest => rw [List.dropWhile_cons_of_neg (by simp [front c rfl])]
  rw [trimBy, begun, trimEndBy_eq_rdropWhile, List.rdropWhile_eq_self_iff]
  intro filled last
  have none := back (text.getLast filled) (List.getLast?_eq_getLast_of_ne_nil filled)
  rw [none] at last
  cases last

theorem trimBy_subset (p : Char → Bool) (text : List Char) : trimBy p text ⊆ text := by
  intro c kept
  rw [trimBy, trimEndBy_eq_rdropWhile] at kept
  exact (List.dropWhile_suffix p).subset ((List.rdropWhile_prefix p _).subset kept)

/-- Nothing is left of a text of characters that are trimmed, and of no other. -/
theorem trimBy_eq_nil_iff {p : Char → Bool} {text : List Char} :
    trimBy p text = [] ↔ ∀ c ∈ text, p c = true := by
  rw [trimBy, trimEndBy_eq_rdropWhile, List.rdropWhile_eq_nil_iff]
  constructor
  · intro back c member
    by_contra other
    have kept : c ∈ text.dropWhile p := by
      have whole := List.takeWhile_append_dropWhile (p := p) (l := text)
      rw [← whole, List.mem_append] at member
      exact member.resolve_left fun front => other (List.mem_takeWhile_imp front)
    exact other (back c kept)
  · exact fun all c member => all c (List.dropWhile_subset p member)

/-- Characters of a class around a text are trimmed with it. -/
theorem trimBy_append_append {p : Char → Bool} {front back : List Char} (text : List Char)
    (before : ∀ c ∈ front, p c = true) (behind : ∀ c ∈ back, p c = true) :
    trimBy p (front ++ text ++ back) = trimBy p text := by
  have ended (kept : List Char) : trimEndBy p (kept ++ back) = trimEndBy p kept := by
    have reversed : ∀ c ∈ back.reverse, p c = true := fun c member =>
      behind c (List.mem_reverse.mp member)
    rw [trimEndBy, List.reverse_append, List.dropWhile_append_of_pos reversed, trimEndBy]
  rw [trimBy, trimBy, List.append_assoc, List.dropWhile_append_of_pos before,
    List.dropWhile_append]
  split
  · next empty =>
      rw [List.isEmpty_iff.mp empty, List.dropWhile_eq_nil_iff.mpr behind]
  · exact ended _

theorem of_mem_wordsAfter {allowed : Char → Prop} {text begun word : List Char}
    (member : word ∈ wordsAfter text begun) (inside : ∀ c ∈ text, allowed c)
    (front : ∀ c ∈ begun, isBlank c = false ∧ allowed c) :
    word ≠ [] ∧ ∀ c ∈ word, isBlank c = false ∧ allowed c := by
  induction text generalizing begun with
  | nil =>
      cases begun with
      | nil => simp [wordsAfter] at member
      | cons c begun =>
          have same : word = (c :: begun).reverse := by simpa [wordsAfter] using member
          subst same
          exact ⟨by simp, fun d old => front d (List.mem_reverse.mp old)⟩
  | cons c rest ih =>
      have later : ∀ d ∈ rest, allowed d := fun d old => inside d (List.mem_cons_of_mem c old)
      by_cases blank : isBlank c
      · cases begun with
        | nil =>
            have rest_word : word ∈ wordsAfter rest [] := by
              simpa [wordsAfter, blank] using member
            exact ih rest_word later (by simp)
        | cons b begun =>
            have cases : word = (b :: begun).reverse ∨ word ∈ wordsAfter rest [] := by
              simpa [wordsAfter, blank] using member
            rcases cases with same | rest_word
            · subst same
              exact ⟨by simp, fun d old => front d (List.mem_reverse.mp old)⟩
            · exact ih rest_word later (by simp)
      · have grown : word ∈ wordsAfter rest (c :: begun) := by
          simpa [wordsAfter, blank] using member
        apply ih grown later
        intro d old
        rcases List.mem_cons.mp old with same | older
        · subst same
          exact ⟨by simpa using blank, inside d List.mem_cons_self⟩
        · exact front d older

/-- A word is not empty and has no blanks, and it keeps what holds of all characters of its text. -/
theorem of_mem_words {allowed : Char → Prop} {text word : List Char} (member : word ∈ words text)
    (inside : ∀ c ∈ text, allowed c) :
    word ≠ [] ∧ ∀ c ∈ word, isBlank c = false ∧ allowed c :=
  of_mem_wordsAfter member inside (by simp)

/-- Joining puts the separator before every piece but the first. -/
theorem join_cons (separator first : List Char) (rest : List (List Char)) :
    join separator (first :: rest) = first ++ rest.flatMap fun next => separator ++ next := by
  induction rest generalizing first with
  | nil => simp [join]
  | cons next rest ih =>
      have step : join separator (first :: next :: rest) =
          first ++ (separator ++ join separator (next :: rest)) := by
        simp [join, List.intercalate_cons_cons]
      rw [step, ih]
      simp

section Cut

variable {β : Type} {read : List Char → List β} {separator : List Char}
  (cut : ∀ left rest, read (left ++ (separator ++ rest)) = read left ++ read rest)

include cut

/-- A reading that can be cut at a separator reads what stands behind separators piece by piece. -/
theorem append_flatMap_of_cut {α : Type} (text : List Char) (body : α → List Char)
    (rest : List α) :
    read (text ++ rest.flatMap fun x => separator ++ body x) =
      read text ++ rest.flatMap fun x => read (body x) := by
  induction rest generalizing text with
  | nil => simp
  | cons first rest ih =>
      rw [List.flatMap_cons, List.flatMap_cons, List.append_assoc, cut, ih]

/-- It reads joined pieces one by one. -/
theorem join_of_cut (empty : read [] = []) (pieces : List (List Char)) :
    read (join separator pieces) = pieces.flatMap read := by
  cases pieces with
  | nil => exact empty
  | cons first rest => rw [join_cons, append_flatMap_of_cut cut, List.flatMap_cons]

end Cut

end AuditTrail.Text
