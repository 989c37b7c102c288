import AuditTrail.Path
import Mathlib.Data.List.DropRight

/-!
# Texts and places of paths

A path in normal form is read back from its text.  The place of a path is found step by step: a name
goes one directory down, and two dots lead back.
-/

namespace AuditTrail

namespace Text

variable {mark : Char} {text : List Char}

theorem piecesAfter_eq_splitOnPPrepend (mark : Char) (text begun : List Char) :
    piecesAfter mark text begun = text.splitOnPPrepend (· == mark) begun := by
  induction text generalizing begun with
  | nil => rw [piecesAfter, List.splitOnPPrepend_nil]
  | cons c rest ih =>
      rw [piecesAfter, List.splitOnPPrepend_cons_eq_if, ih, ih]
      rfl

theorem pieces_eq_splitOn (mark : Char) (text : List Char) : pieces mark text = text.splitOn mark :=
  piecesAfter_eq_splitOnPPrepend mark text []

theorem not_mem_of_mem_piecesAfter {begun piece : List Char} (clean : mark ∉ begun)
    (member : piece ∈ piecesAfter mark text begun) : mark ∉ piece := by
  induction text generalizing begun with
  | nil =>
      obtain rfl := List.mem_singleton.mp member
      simpa using clean
  | cons c rest ih =>
      rw [piecesAfter] at member
      by_cases same : c == mark
      · rw [if_pos same] at member
        rcases List.mem_cons.mp member with rfl | later
        · simpa using clean
        · exact ih List.not_mem_nil later
      · rw [if_neg same] at member
        have apart : mark ≠ c := by
          rintro rfl
          exact same (beq_self_eq_true mark)
        exact ih (by simp [apart, clean]) member

theorem not_mem_of_mem_pieces {piece : List Char} (member : piece ∈ pieces mark text) :
    mark ∉ piece :=
  not_mem_of_mem_piecesAfter List.not_mem_nil member

/-- What is written behind a text without the mark lengthens its last piece. -/
theorem exists_pieces_append (mark : Char) (text : List Char) :
    ∃ lead last, ∀ more, mark ∉ more → pieces mark (text ++ more) = lead ++ [last ++ more] := by
  induction text with
  | nil =>
      refine ⟨[], [], fun more clean => ?_⟩
      rw [pieces_eq_splitOn]
      exact List.splitOn_eq_singleton clean
  | cons c rest ih =>
      obtain ⟨lead, last, split⟩ := ih
      simp only [pieces_eq_splitOn] at split ⊢
      by_cases same : c == mark
      · refine ⟨[] :: lead, last, fun more clean => ?_⟩
        rw [List.cons_append, List.splitOn_cons_eq_if_modifyHead, if_pos same, split more clean]
        rfl
      · cases lead with
        | nil =>
            refine ⟨[], c :: last, fun more clean => ?_⟩
            rw [List.cons_append, List.splitOn_cons_eq_if_modifyHead, if_neg same, split more clean]
            rfl
        | cons first lead =>
            refine ⟨(c :: first) :: lead, last, fun more clean => ?_⟩
            rw [List.cons_append, List.splitOn_cons_eq_if_modifyHead, if_neg same, split more clean]
            rfl

end Text

open Text

namespace Path

/-- Whether a path is in normal form. -/
structure IsProper (path : Path) : Prop where
  slashes : path.slashes ≤ 2
  parts : ∀ name ∈ path.parts, isPart name = true ∧ '/' ∉ name

theorem leadingSlashes_le (text : List Char) : leadingSlashes text ≤ 2 := by
  fun_cases leadingSlashes text <;> simp

theorem isProper_read (text : List Char) : (read text).IsProper where
  slashes := leadingSlashes_le text
  parts name member := by
    obtain ⟨piece, leads⟩ := List.mem_filter.mp member
    exact ⟨leads, not_mem_of_mem_pieces piece⟩

theorem IsProper.append {base path : Path} (proper : base.IsProper) (follows : path.IsProper) :
    (base.append path).IsProper := by
  rw [Path.append]
  split
  · exact follows
  · refine ⟨proper.slashes, fun name member => ?_⟩
    exact (List.mem_append.mp member).elim (proper.parts name) (follows.parts name)

theorem leadingSlashes_replicate_append {count : Nat} {rest : List Char} (few : count ≤ 2)
    (begins : rest.head? ≠ some '/') :
    leadingSlashes (List.replicate count '/' ++ rest) = count := by
  cases rest with
  | nil =>
      match count, few with
      | 0, _ => rfl
      | 1, _ => rfl
      | 2, _ => rfl
  | cons c tail =>
      have other : c ≠ '/' := by simpa using begins
      match count, few with
      | 0, _ => simp [leadingSlashes, other]
      | 1, _ => simp [leadingSlashes, List.replicate, other]
      | 2, _ => simp [leadingSlashes, List.replicate, other]

theorem pieces_replicate_append (count : Nat) (rest : List Char) :
    pieces '/' (List.replicate count '/' ++ rest) = List.replicate count [] ++ pieces '/' rest := by
  induction count with
  | zero => rfl
  | succ count ih =>
      simp only [pieces_eq_splitOn] at ih ⊢
      rw [List.replicate_succ, List.cons_append, List.splitOn_cons_eq_if_modifyHead,
        if_pos (beq_self_eq_true '/'), ih]
      rfl

theorem filter_pieces_join {parts : List (List Char)}
    (proper : ∀ name ∈ parts, isPart name = true ∧ '/' ∉ name) :
    (pieces '/' (join ['/'] parts)).filter isPart = parts := by
  cases parts with
  | nil => rfl
  | cons first rest =>
      rw [pieces_eq_splitOn, join, List.splitOn_intercalate '/' (fun name member =>
        (proper name member).2) (List.cons_ne_nil first rest)]
      exact List.filter_eq_self.mpr fun name member => (proper name member).1

theorem head?_join {parts : List (List Char)}
    (proper : ∀ name ∈ parts, isPart name = true ∧ '/' ∉ name) :
    (join ['/'] parts).head? ≠ some '/' := by
  cases parts with
  | nil => simp [join]
  | cons first rest =>
      obtain ⟨leads, clean⟩ := proper first List.mem_cons_self
      cases first with
      | nil => cases leads
      | cons c name =>
          have other : c ≠ '/' := fun same => clean (same ▸ List.mem_cons_self)
          cases rest with
          | nil => simpa [join] using other
          | cons next rest => simpa [join, List.intercalate_cons_cons] using other

/-- A path in normal form is read back from its text. -/
theorem read_text {path : Path} (proper : path.IsProper) : read path.text = path := by
  obtain ⟨slashes, parts⟩ := path
  rw [text]
  split
  · next empty =>
      obtain ⟨rfl, rfl⟩ : slashes = 0 ∧ parts = [] := by simpa using empty
      rfl
  · rw [read, leadingSlashes_replicate_append proper.slashes (head?_join proper.parts),
      pieces_replicate_append, List.filter_append, filter_pieces_join proper.parts]
    have none : (List.replicate slashes ([] : List Char)).filter isPart = [] :=
      List.filter_eq_nil_iff.mpr fun name member => by
        rw [List.eq_of_mem_replicate member]
        decide
    rw [none, List.nil_append]

variable {slashes : Nat} {names : List (List Char)} {name : List Char}

theorem stepFrom_of_ne (other : name ≠ ['.', '.']) :
    stepFrom slashes names name = names ++ [name] := by
  simp [stepFrom, step, other]

theorem stepFrom_subset (slashes : Nat) (names : List (List Char)) (name : List Char) :
    stepFrom slashes names name ⊆ names ++ [name] := by
  rw [stepFrom, step]
  split
  · exact List.Subset.refl _
  · split
    · exact List.Subset.trans (List.dropLast_subset names) (List.subset_append_left _ _)
    · exact List.Subset.refl _

/-- A name goes one directory down. -/
theorem place_concat (other : name ≠ ['.', '.']) :
    (⟨slashes, names ++ [name]⟩ : Path).place =
      ⟨min slashes 1, (⟨slashes, names⟩ : Path).place.parts ++ [name]⟩ := by
  rw [place, place, List.foldl_concat, stepFrom_of_ne other]

theorem parts_place_subset (path : Path) : path.place.parts ⊆ path.parts := by
  obtain ⟨slashes, parts⟩ := path
  induction parts using List.reverseRecOn with
  | nil => exact List.Subset.refl _
  | append_singleton names name ih =>
      rw [place, List.foldl_concat]
      exact List.Subset.trans (stepFrom_subset slashes _ name)
        (List.append_subset.mpr ⟨List.subset_append_of_subset_left _ ih,
          List.subset_append_right _ _⟩)

theorem IsProper.place {path : Path} (proper : path.IsProper) : path.place.IsProper where
  slashes := by
    rw [Path.place]
    exact Nat.le_trans (Nat.min_le_right _ _) (by decide)
  parts name member := proper.parts name (path.parts_place_subset member)

theorem ways_concat (slashes : Nat) (names : List (List Char)) (name : List Char) :
    (⟨slashes, names ++ [name]⟩ : Path).ways =
      (⟨slashes, names⟩ : Path).ways ++ [⟨slashes, names⟩] := by
  simp only [ways, List.length_append, List.length_singleton, List.range_succ, List.map_append,
    List.map_singleton, List.take_left']
  congr 1
  apply List.map_congr_left
  intro count inside
  rw [List.take_append_of_le_length (Nat.le_of_lt (List.mem_range.mp inside))]

theorem passes_iff {path other : Path} :
    path.passes other = true ↔ path.slashes = other.slashes ∧ other.parts <+: path.parts := by
  simp [passes]

theorem passes_self (path : Path) : path.passes path = true :=
  passes_iff.mpr ⟨rfl, List.prefix_rfl⟩

theorem passes_of_parent {path other : Path} (passes : path.parent.passes other = true) :
    path.passes other = true := by
  obtain ⟨slashes, front⟩ := passes_iff.mp passes
  have shorter : path.parent.parts <+: path.parts := List.dropLast_prefix path.parts
  exact passes_iff.mpr ⟨slashes, front.trans shorter⟩

theorem passes_of_concat {path : Path} (passes : path.passes ⟨slashes, names ++ [name]⟩ = true) :
    path.passes ⟨slashes, names⟩ = true := by
  obtain ⟨same, front⟩ := passes_iff.mp passes
  exact passes_iff.mpr ⟨same, (List.prefix_append _ _).trans front⟩

theorem parent_passes_of_concat {path : Path}
    (passes : path.passes ⟨slashes, names ++ [name]⟩ = true) :
    path.parent.passes ⟨slashes, names⟩ = true := by
  obtain ⟨same, rest, split⟩ := passes_iff.mp passes
  refine passes_iff.mpr ⟨same, ?_⟩
  rw [parent, ← split, List.append_assoc]
  dsimp only
  rw [List.dropLast_append_of_ne_nil (by simp)]
  exact List.prefix_append _ _

end Path

end AuditTrail
