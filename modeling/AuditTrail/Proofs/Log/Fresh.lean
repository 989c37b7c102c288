import AuditTrail.Log.File
import AuditTrail.Proofs.Calendar.Clock
import AuditTrail.Proofs.Log.Disk
import Mathlib.Data.List.Nodup
import Mathlib.Data.List.Perm.Subperm
import Mathlib.Tactic.ByContra

/-!
# The search for a path that leads to nothing

The numbered paths of a title have different places.  A disk has only so many files and directories,
so counting up ends at the least number whose path leads to nothing.
-/

namespace AuditTrail.Log

open Text

/-- What stands behind a title in the name of a numbered file. -/
def numberEnding (number : Nat) : List Char :=
  (if number = 0 then [] else '-' :: Nat.toDigits 10 number) ++ ".log".toList

theorem numberEnding_injective {first second : Nat}
    (same : numberEnding first = numberEnding second) : first = second := by
  have numbers := List.append_cancel_right same
  by_cases zero : first = 0 <;> by_cases other : second = 0
  · rw [zero, other]
  · simp [zero, other] at numbers
  · simp [zero, other] at numbers
  · rw [if_neg zero, if_neg other] at numbers
    have digits := congrArg (Nat.ofDigitChars 10 · 0) (List.cons.inj numbers).2
    simpa only [Nat.ofDigitChars_ten_toDigits] using digits

theorem slash_not_mem_toDigits (n : Nat) : '/' ∉ Nat.toDigits 10 n := fun member =>
  absurd (Nat.isDigit_of_mem_toDigits (by decide) (by decide) member) (by decide)

theorem slash_not_mem_padded (width n : Nat) : '/' ∉ padded width n := fun member =>
  absurd (isDigit_of_mem_padded member) (by decide)

theorem slash_not_mem_numberEnding (number : Nat) : '/' ∉ numberEnding number := by
  rw [numberEnding, List.mem_append]
  rintro (digits | log)
  · split at digits
    · cases digits
    · simp [slash_not_mem_toDigits] at digits
  · exact absurd log (by decide)

theorem slash_not_mem_stamp (now : Moment) : '/' ∉ stamp now := by
  simp [stamp, slash_not_mem_toDigits, slash_not_mem_padded]

theorem head?_numberEnding (number : Nat) : (numberEnding number).head? ≠ some '/' := fun head =>
  slash_not_mem_numberEnding number (List.mem_of_mem_head? head)

theorem four_le_length (name : List Char) (number : Nat) :
    4 ≤ (name ++ numberEnding number).length := by
  have log : ".log".toList.length = 4 := rfl
  rw [numberEnding, List.length_append, List.length_append, log]
  omega

theorem isPart_numbered (name : List Char) (number : Nat) :
    Path.isPart (name ++ numberEnding number) = true := by
  have long := four_le_length name number
  have filled : name ++ numberEnding number ≠ [] := fun none => by simp [none] at long
  have other : name ++ numberEnding number ≠ ['.'] := fun dot => by simp [dot] at long
  simp only [Path.isPart, Bool.and_eq_true, Bool.not_eq_true', List.isEmpty_eq_false_iff,
    bne_iff_ne]
  exact ⟨filled, other⟩

theorem numbered_ne_dots (name : List Char) (number : Nat) :
    name ++ numberEnding number ≠ ['.', '.'] := fun dots => by
  have long := four_le_length name number
  rw [dots] at long
  exact absurd long (by decide)

theorem leadingSlashes_append (title : List Char) {more : List Char}
    (begins : more.head? ≠ some '/') (filled : more ≠ []) :
    Path.leadingSlashes (title ++ more) = Path.leadingSlashes title := by
  obtain ⟨c, rest, rfl⟩ := List.exists_cons_of_ne_nil filled
  have other : c ≠ '/' := by simpa using begins
  match title with
  | [] => simp [Path.leadingSlashes, other]
  | [a] => by_cases first : a = '/' <;> simp [Path.leadingSlashes, first, other]
  | [a, b] =>
      by_cases first : a = '/' <;> by_cases second : b = '/' <;>
        simp [Path.leadingSlashes, first, second, other]
  | a :: b :: d :: tail =>
      by_cases first : a = '/' <;> by_cases second : b = '/' <;> by_cases third : d = '/' <;>
        simp [Path.leadingSlashes, first, second, third]

theorem numberedPath_eq (directory : Path) (title : List Char) (number : Nat) :
    numberedPath directory title number =
      directory.append (.read (title ++ numberEnding number)) := by
  rw [numberedPath, numberEnding, List.append_assoc]

/-- The numbered paths of a title differ in the end of their last names. -/
theorem exists_numberedPath (directory : Path) (title : List Char) :
    ∃ slashes lead name, ∀ number,
      numberedPath directory title number = ⟨slashes, lead ++ [name ++ numberEnding number]⟩ := by
  obtain ⟨pieces, name, split⟩ := exists_pieces_append '/' title
  have read (number : Nat) : Path.read (title ++ numberEnding number) =
      ⟨Path.leadingSlashes title, pieces.filter Path.isPart ++ [name ++ numberEnding number]⟩ := by
    have filled : numberEnding number ≠ [] := fun none => by
      have long := four_le_length [] number
      simp [none] at long
    rw [Path.read, leadingSlashes_append title (head?_numberEnding number) filled,
      split _ (slash_not_mem_numberEnding number), List.filter_append,
      List.filter_singleton, isPart_numbered]
    rfl
  by_cases rooted : (Path.leadingSlashes title != 0) = true
  · refine ⟨Path.leadingSlashes title, pieces.filter Path.isPart, name, fun number => ?_⟩
    rw [numberedPath_eq, read]
    exact if_pos rooted
  · refine ⟨directory.slashes, directory.parts ++ pieces.filter Path.isPart, name,
      fun number => ?_⟩
    rw [numberedPath_eq, read, List.append_assoc]
    exact if_neg rooted

theorem isProper_numberedPath {directory : Path} (proper : directory.IsProper)
    (title : List Char) (number : Nat) : (numberedPath directory title number).IsProper := by
  rw [numberedPath_eq]
  exact proper.append (Path.isProper_read _)

/-- More numbers are tried than a directory can hold files and directories, so one of them is
free. -/
theorem exists_free (disk : Disk) (directory : Path) (title : List Char) :
    ∃ number < disk.length + directory.parts.length + 2,
      disk.finds directory (numberedPath directory title number) = false := by
  obtain ⟨slashes, lead, name, numbered⟩ := exists_numberedPath directory title
  let above := (⟨slashes, lead⟩ : Path).place.parts
  let parts (number : Nat) : List (List Char) := above ++ [name ++ numberEnding number]
  have place (number : Nat) : (numberedPath directory title number).place =
      ⟨min slashes 1, parts number⟩ := by
    rw [numbered, Path.place_concat (numbered_ne_dots name number)]
  have distinct : Function.Injective parts := fun first second same =>
    numberEnding_injective
      (List.append_cancel_left (List.singleton_inj.mp (List.append_cancel_left same)))
  by_contra! taken
  have within : (List.range (disk.length + directory.parts.length + 2)).map parts ⊆
      disk.partsAtDepth directory (above.length + 1) := by
    intro entry member
    obtain ⟨number, inside, rfl⟩ := List.mem_map.mp member
    have found := Bool.eq_true_of_not_eq_false (taken number (List.mem_range.mp inside))
    rw [Disk.finds, Bool.and_eq_true, place] at found
    have last : name ++ numberEnding number ∈ parts number := by simp [parts]
    have held := Disk.mem_partsAtDepth_of_holds found.2 last (numbered_ne_dots name number)
    simpa [parts] using held
  have length := (List.subperm_of_subset (List.nodup_range.map distinct) within).length_le
  rw [List.length_map, List.length_range, Disk.length_partsAtDepth] at length
  omega

/-- A search that counts up from a number for as long as numbers are taken, and ends at a number. -/
inductive Search (taken : Nat → Bool) : Nat → Nat → Prop where
  | done {number : Nat} (free : taken number = false) : Search taken number number
  | next {number last : Nat} (full : taken number = true) (rest : Search taken (number + 1) last) :
      Search taken number last

variable {taken : Nat → Bool} {start last : Nat}

/-- A search ends at a number exactly if it is the first free one. -/
theorem search_iff : Search taken start last ↔
    start ≤ last ∧ taken last = false ∧ ∀ number, start ≤ number → number < last →
      taken number = true := by
  constructor
  · intro search
    induction search with
    | done free => exact ⟨Nat.le_refl _, free, fun number after before => by omega⟩
    | @next number last full rest ih =>
        obtain ⟨after, free, between⟩ := ih
        refine ⟨by omega, free, fun other low high => ?_⟩
        by_cases same : other = number
        · exact same ▸ full
        · exact between other (by omega) high
  · rintro ⟨after, free, between⟩
    obtain ⟨count, rfl⟩ := Nat.exists_eq_add_of_le after
    induction count generalizing start with
    | zero => exact .done free
    | succ count ih =>
        have further : start + (count + 1) = start + 1 + count := by omega
        rw [further] at free between ⊢
        have later (number : Nat) (low : start + 1 ≤ number) (high : number < start + 1 + count) :
            taken number = true := between number (by omega) high
        exact .next (between start (Nat.le_refl _) (by omega)) (ih (by omega) free later)

/-- The search for a path that leads to nothing ends, and the number that it ends at is the number
of the fresh path. -/
theorem exists_search (disk : Disk) (directory : Path) (title : List Char) :
    ∃ number,
      Search (fun k => disk.finds directory (numberedPath directory title k)) 0 number ∧
      freshPath disk directory title = numberedPath directory title number := by
  let free (number : Nat) : Bool := !disk.finds directory (numberedPath directory title number)
  cases found : (List.range (disk.length + directory.parts.length + 2)).find? free with
  | none =>
      obtain ⟨number, few, unused⟩ := exists_free disk directory title
      have full := List.find?_eq_none.mp found number (List.mem_range.mpr few)
      simp [free, unused] at full
  | some number =>
      obtain ⟨unused, -, sooner⟩ := List.find?_range_eq_some.mp found
      refine ⟨number, search_iff.mpr ⟨Nat.zero_le _, by simpa [free] using unused,
        fun other _ less => by simpa [free] using sooner other less⟩, ?_⟩
      rw [freshPath, found]
      rfl

theorem not_finds_freshPath (disk : Disk) (directory : Path) (title : List Char) :
    disk.finds directory (freshPath disk directory title) = false := by
  obtain ⟨number, search, fresh⟩ := exists_search disk directory title
  exact fresh ▸ (search_iff.mp search).2.1

/-- A writer whose label has no two dots along its way never leads back out of a missing
directory. -/
theorem returnsFromDirectories_nextPath {disk : Disk} {directory : Path} {label : List Char}
    (onward : ['.', '.'] ∉ pieces '/' label) (now : Moment) :
    disk.ReturnsFromDirectories directory (Writer.nextPath disk directory label now) := by
  obtain ⟨number, -, fresh⟩ := exists_search disk directory (label ++ '-' :: stamp now)
  rw [Writer.nextPath, fresh, numberedPath_eq]
  apply Disk.returnsFromDirectories_append
  obtain ⟨lead, last, split⟩ := exists_pieces_append '/' label
  have alone := split [] List.not_mem_nil
  rw [List.append_nil, List.append_nil] at alone
  have clean : '/' ∉ ('-' :: stamp now) ++ numberEnding number := by
    simp [slash_not_mem_stamp, slash_not_mem_numberEnding]
  rw [Path.read, List.append_assoc, split _ clean]
  intro member
  rcases List.mem_append.mp (List.mem_of_mem_filter member) with front | back
  · exact onward (alone ▸ List.mem_append_left _ front)
  · apply numbered_ne_dots (last ++ '-' :: stamp now) number
    rw [List.append_assoc]
    exact (List.mem_singleton.mp back).symm

end AuditTrail.Log
