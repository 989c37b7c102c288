import AuditTrail.Proofs.Calendar.Clock
import AuditTrail.Proofs.Log.Fresh
import AuditTrail.Proofs.Log.Handlers

/-!
# Openings of log files

Writers share a disk and begin one file after the other on it, however many of them in one
millisecond.  Each file is a new one, and what is on the disk is never changed but at the ends of
files.  Only a first file whose path leads back out of a directory that is not there can be an old
one: the search does not find it, and it is opened all the same.
-/

namespace AuditTrail.Log

open Text

/-- Writers and the disk that they share. -/
structure Desk where
  /-- The disk. -/
  disk : Disk
  /-- The writers, in the order in which they were made. -/
  writers : List Writer

/-- What can happen at a desk. -/
inductive Turn where
  /-- A writer is made, for a directory, and begins its first file. -/
  | begin (directory label : List Char) (limit : Int) (now : Moment)
  /-- A writer begins another file. -/
  | rollOver (index : Nat) (now : Moment)
  /-- A writer writes a line, after it has begun another file if the current one is too full. -/
  | write (index : Nat) (now : Moment) (text : List Char)
  /-- Others make a file. -/
  | appear (path : Path)

namespace Desk

/-- One of the writers at work. -/
def onWriter (desk : Desk) (index : Nat) (work : Writer → Disk → Writer × Disk) : Desk :=
  match desk.writers[index]? with
  | some writer =>
    let (later, disk) := work writer desk.disk
    ⟨disk, desk.writers.set index later⟩
  | none => desk

end Desk

/-- What a turn makes of a desk. -/
def Turn.apply (desk : Desk) : Turn → Desk
  | .begin directory label limit now =>
    let (writer, disk) := Writer.begin (.read directory) label limit now desk.disk
    ⟨disk, desk.writers ++ [writer]⟩
  | .rollOver index now => desk.onWriter index fun writer disk => writer.rollOver now disk
  | .write index now text => desk.onWriter index fun writer disk => writer.write now text disk
  | .appear path => { desk with disk := desk.disk.create path.place.text }

/-- What a turn opens: a file at a path, for a directory.  Nothing is opened where a writer that
exists is led through directories that are not there. -/
inductive Turn.Opens (desk : Desk) : Turn → Path → Path → Prop where
  | begin (directory label : List Char) (limit : Int) (now : Moment) :
      Opens desk (.begin directory label limit now) (.read directory)
        (Writer.nextPath desk.disk (.read directory) label now)
  | rollOver {index : Nat} {writer : Writer} {now : Moment}
      (there : desk.writers[index]? = some writer)
      (leads : desk.disk.leads writer.directory
        (Writer.nextPath desk.disk writer.directory writer.label now) = true) :
      Opens desk (.rollOver index now) writer.directory
        (Writer.nextPath desk.disk writer.directory writer.label now)
  | write {index : Nat} {writer : Writer} {now : Moment} {text : List Char}
      (there : desk.writers[index]? = some writer)
      (full : writer.isFull desk.disk (text ++ ['\n']) = true)
      (leads : desk.disk.leads writer.directory
        (Writer.nextPath desk.disk writer.directory writer.label now) = true) :
      Opens desk (.write index now text) writer.directory
        (Writer.nextPath desk.disk writer.directory writer.label now)

namespace Desk

/-- A desk after some turns. -/
def run (turns : List Turn) (desk : Desk) : Desk := turns.foldl Turn.apply desk

theorem run_append (first second : List Turn) (desk : Desk) :
    run (first ++ second) desk = run second (run first desk) := List.foldl_append

/-- Whether the directories of all writers are paths in normal form. -/
def IsProper (desk : Desk) : Prop := ∀ writer ∈ desk.writers, writer.directory.IsProper

variable {desk : Desk} {turn : Turn} {directory path : Path}

theorem onWriter_of_getElem? {index : Nat} {writer : Writer}
    (there : desk.writers[index]? = some writer) (work : Writer → Disk → Writer × Disk) :
    desk.onWriter index work =
      ⟨(work writer desk.disk).2, desk.writers.set index (work writer desk.disk).1⟩ := by
  rw [onWriter, there]

/-- Work that keeps a writer's directory, and all that is on the disk, does so at a desk. -/
theorem onWriter_keeps {work : Writer → Disk → Writer × Disk}
    (keeps : ∀ writer disk, (work writer disk).1.directory = writer.directory ∧
      disk.Extends (work writer disk).2) (proper : desk.IsProper) (index : Nat) :
    (desk.onWriter index work).IsProper ∧ desk.disk.Extends (desk.onWriter index work).disk := by
  cases there : desk.writers[index]? with
  | none =>
      rw [onWriter, there]
      exact ⟨proper, .refl desk.disk⟩
  | some writer =>
      rw [onWriter_of_getElem? there]
      obtain ⟨same, grown⟩ := keeps writer desk.disk
      refine ⟨fun other member => ?_, grown⟩
      rcases List.mem_or_eq_of_mem_set member with old | rfl
      · exact proper other old
      · exact same ▸ proper writer (List.mem_of_getElem? there)

theorem rollOver_keeps (writer : Writer) (now : Moment) (disk : Disk) :
    (writer.rollOver now disk).1.directory = writer.directory ∧
      disk.Extends (writer.rollOver now disk).2 := by
  refine ⟨rfl, ?_⟩
  rw [Writer.rollOver]
  dsimp only
  split
  · exact disk.extends_create _
  · exact .refl disk

theorem write_keeps (writer : Writer) (now : Moment) (text : List Char) (disk : Disk) :
    (writer.write now text disk).1.directory = writer.directory ∧
      disk.Extends (writer.write now text disk).2 := by
  refine ⟨(writer.continues_write now text disk).directory, ?_⟩
  rw [Writer.write]
  dsimp only
  split
  · exact (rollOver_keeps writer now disk).2.trans (Disk.extends_extend _ _ _)
  · exact disk.extends_extend _ _

/-- A turn keeps directories in normal form and all that is on the disk. -/
theorem apply_keeps (proper : desk.IsProper) (turn : Turn) :
    (turn.apply desk).IsProper ∧ desk.disk.Extends (turn.apply desk).disk := by
  cases turn with
  | begin directory label limit now =>
      refine ⟨fun writer member => ?_, desk.disk.extends_create _⟩
      rcases List.mem_append.mp member with old | new
      · exact proper writer old
      · obtain rfl := List.mem_singleton.mp new
        exact Path.isProper_read directory
  | rollOver index now =>
      exact onWriter_keeps (fun writer => rollOver_keeps writer now) proper index
  | write index now text =>
      exact onWriter_keeps (fun writer => write_keeps writer now text) proper index
  | appear path => exact ⟨proper, desk.disk.extends_create _⟩

/-- A run keeps directories in normal form and all that is on the disk. -/
theorem run_keeps (proper : desk.IsProper) (turns : List Turn) :
    (run turns desk).IsProper ∧ desk.disk.Extends (run turns desk).disk := by
  induction turns generalizing desk with
  | nil => exact ⟨proper, .refl desk.disk⟩
  | cons turn rest ih =>
      obtain ⟨properNext, grown⟩ := apply_keeps proper turn
      obtain ⟨properLast, grownLater⟩ := ih properNext
      exact ⟨properLast, grown.trans grownLater⟩

theorem exists_label (opens : turn.Opens desk directory path) :
    ∃ label now, path = Writer.nextPath desk.disk directory label now := by
  cases opens <;> exact ⟨_, _, rfl⟩

theorem not_finds_of_opens (opens : turn.Opens desk directory path) :
    desk.disk.finds directory path = false := by
  obtain ⟨label, now, rfl⟩ := exists_label opens
  exact not_finds_freshPath desk.disk directory _

theorem isProper_of_opens (proper : desk.IsProper) (opens : turn.Opens desk directory path) :
    path.IsProper := by
  have directoryProper : directory.IsProper := by
    cases opens with
    | begin written => exact Path.isProper_read written
    | rollOver there | write there => exact proper _ (List.mem_of_getElem? there)
  obtain ⟨label, now, rfl⟩ := exists_label opens
  exact isProper_numberedPath directoryProper _ _

/-- A file is opened where there is one, or is made, and a line may be written into it at once. -/
theorem disk_of_opens (opens : turn.Opens desk directory path) :
    ∃ line, (turn.apply desk).disk =
      (desk.disk.create path.place.text).extend path.place.text line := by
  cases opens with
  | begin written label limit now => exact ⟨[], (Disk.extend_nil _ _).symm⟩
  | rollOver there leads =>
      refine ⟨[], ?_⟩
      rw [Turn.apply, onWriter_of_getElem? there, Writer.rollOver, Disk.extend_nil]
      dsimp only
      rw [if_pos leads]
  | @write index writer now text there full leads =>
      refine ⟨text ++ ['\n'], ?_⟩
      rw [Turn.apply, onWriter_of_getElem? there, Writer.write]
      dsimp only
      rw [if_pos full, Writer.rollOver]
      dsimp only
      rw [if_pos leads, if_pos leads]

theorem has_of_opens (opens : turn.Opens desk directory path) :
    (turn.apply desk).disk.has path.place.text = true := by
  obtain ⟨line, opened⟩ := disk_of_opens opens
  rw [opened]
  exact (Disk.extends_extend _ _ line).has (Disk.has_create _ _)

theorem has_onWriter {index : Nat} {work : Writer → Disk → Writer × Disk} {text : List Char}
    (made : (desk.onWriter index work).disk.has text = true) :
    desk.disk.has text = true ∨
      ∃ writer, desk.writers[index]? = some writer ∧ (work writer desk.disk).2.has text = true := by
  cases there : desk.writers[index]? with
  | none =>
      rw [onWriter, there] at made
      exact .inl made
  | some writer =>
      rw [onWriter_of_getElem? there] at made
      exact .inr ⟨writer, rfl, made⟩

theorem has_rollOver {writer : Writer} {now : Moment} {disk : Disk} {text : List Char}
    (made : (writer.rollOver now disk).2.has text = true) :
    disk.has text = true ∨
      disk.leads writer.directory (Writer.nextPath disk writer.directory writer.label now) = true ∧
      (Writer.nextPath disk writer.directory writer.label now).place.text = text := by
  rw [Writer.rollOver] at made
  dsimp only at made
  split at made
  · next leads => exact (Disk.has_create_iff.mp made).imp_right fun same => ⟨leads, same⟩
  · exact .inl made

theorem has_write {writer : Writer} {now : Moment} {line : List Char} {disk : Disk}
    {text : List Char} (made : (writer.write now line disk).2.has text = true) :
    disk.has text = true ∨ writer.isFull disk (line ++ ['\n']) = true ∧
      (writer.rollOver now disk).2.has text = true := by
  rw [Writer.write] at made
  dsimp only at made
  rw [Disk.has_extend] at made
  split at made
  · next full => exact .inr ⟨full, made⟩
  · exact .inl made

/-- What comes to be on the disk has been opened, or others have made it. -/
theorem has_apply {text : List Char} (made : (turn.apply desk).disk.has text = true) :
    desk.disk.has text = true ∨ (∃ path, turn = .appear path ∧ path.place.text = text) ∨
      ∃ directory path, turn.Opens desk directory path ∧ path.place.text = text := by
  cases turn with
  | begin written label limit now =>
      exact (Disk.has_create_iff.mp made).imp_right fun same =>
        .inr ⟨_, _, .begin written label limit now, same⟩
  | appear path => exact (Disk.has_create_iff.mp made).imp_right fun same => .inl ⟨path, rfl, same⟩
  | rollOver index now =>
      obtain old | ⟨writer, there, made⟩ := has_onWriter made
      · exact .inl old
      · exact (has_rollOver made).imp_right fun ⟨leads, same⟩ =>
          .inr ⟨_, _, .rollOver there leads, same⟩
  | write index now line =>
      obtain old | ⟨writer, there, made⟩ := has_onWriter made
      · exact .inl old
      obtain old | ⟨full, made⟩ := has_write made
      · exact .inl old
      · exact (has_rollOver made).imp_right fun ⟨leads, same⟩ =>
          .inr ⟨_, _, .write there full leads, same⟩

/-- Only the path of a first file can lead back out of a directory that is not there. -/
theorem returns_of_opens (opens : turn.Opens desk directory path)
    (first : ∀ written label limit now, turn = .begin written label limit now →
      desk.disk.ReturnsFromDirectories directory path) :
    desk.disk.ReturnsFromDirectories directory path := by
  cases opens with
  | begin written label limit now => exact first written label limit now rfl
  | rollOver _ leads | write _ _ leads => exact Disk.returnsFromDirectories_of_leads leads

theorem free_of_opens (opens : turn.Opens desk directory path)
    (returns : desk.disk.ReturnsFromDirectories directory path) :
    desk.disk.holds directory path.place = false := by
  have missed := not_finds_of_opens opens
  rw [Bool.eq_false_iff] at missed ⊢
  exact fun held => missed ((Disk.finds_iff returns).mpr held)

/-- A desk at which nobody is at work yet. -/
def bare (disk : Disk) : Desk := ⟨disk, []⟩

theorem isProper_run_bare (disk : Disk) (turns : List Turn) : (run turns (bare disk)).IsProper :=
  (run_keeps (fun _ none => absurd none List.not_mem_nil) turns).1

/-- The search for a path of a file ends, on every disk, at the least number whose path leads to
nothing.  Whatever writers do on a shared disk, in one millisecond or in many, files are changed at
their ends only, and those that come to be have been opened, or others have made them.  A file that
is opened was not there before, in particular no earlier one of theirs, unless it is the first one
of a writer and its path leads back out of a directory that is not there. -/
theorem openings_fresh (disk : Disk) :
    (∀ directory label now, ∃ number,
      let numbered := numberedPath directory (label ++ '-' :: stamp now)
      Search (fun k => disk.finds directory (numbered k)) 0 number ∧
      Writer.nextPath disk directory label now = numbered number ∧
      disk.finds directory (numbered number) = false ∧
      ∀ k < number, disk.finds directory (numbered k) = true) ∧
    ∀ turns : List Turn,
      let desk := run turns (bare disk)
      (∀ more, desk.disk.Extends (run (turns ++ more) (bare disk)).disk) ∧
      (∀ (turn : Turn) (text : List Char), (turn.apply desk).disk.has text = true →
        desk.disk.has text = true ∨ (∃ path, turn = .appear path ∧ path.place.text = text) ∨
          ∃ directory path, turn.Opens desk directory path ∧ path.place.text = text) ∧
      ∀ (turn : Turn) (directory path : Path), turn.Opens desk directory path →
        (∀ written label limit now, turn = .begin written label limit now →
          desk.disk.ReturnsFromDirectories directory path) →
        desk.disk.holds directory path.place = false ∧
        (∃ line, (turn.apply desk).disk = desk.disk ++ [(path.place.text, line)]) ∧
        ∀ first earlier rest, turns = first ++ earlier :: rest →
          ∀ other older, earlier.Opens (run first (bare disk)) other older →
            older.place.text ≠ path.place.text := by
  refine ⟨fun directory label now => ?_, fun turns => ⟨fun more => ?_, fun turn text => has_apply,
    fun turn directory path opens firstReturns => ?_⟩⟩
  · obtain ⟨number, search, fresh⟩ := exists_search disk directory (label ++ '-' :: stamp now)
    obtain ⟨-, free, taken⟩ := search_iff.mp search
    exact ⟨number, search, fresh, free, fun k less => taken k (Nat.zero_le k) less⟩
  · rw [run_append]
    exact (run_keeps (isProper_run_bare disk turns) more).2
  · have proper := (isProper_of_opens (isProper_run_bare disk turns) opens).place
    have free := free_of_opens opens (returns_of_opens opens firstReturns)
    have new := Disk.has_eq_false proper free
    obtain ⟨line, opened⟩ := disk_of_opens opens
    refine ⟨free, ⟨line, opened.trans (Disk.extend_create_of_not_has new line)⟩, ?_⟩
    rintro first earlier rest rfl other older before same
    -- The earlier file is there from its opening on.
    have there : (run (first ++ earlier :: rest) (bare disk)).disk.has older.place.text = true := by
      rw [run_append]
      have kept := (apply_keeps (isProper_run_bare disk first) earlier).1
      exact (run_keeps kept rest).2.has (has_of_opens before)
    rw [same, new] at there
    cases there

/-- Two files that stand in the way of a third. -/
def crowdedDisk : Disk :=
  [("logs/x-10101-000000-000.log".toList, []), ("logs/x-10101-000000-000-2.log".toList, [])]

/-- A writer that begins its first file. -/
def beginning (label : String) : Turn := .begin "logs".toList label.toList 0 default

/-- Two writers that are made at once get the first numbers that are free. -/
theorem openings_fresh_crowded :
    ∃ path,
      (beginning "x").Opens (run [beginning "x"] (bare crowdedDisk)) (.read "logs".toList) path ∧
      path.place.text = "logs/x-10101-000000-000-3.log".toList ∧
      (run [beginning "x"] (bare crowdedDisk)).disk.holds (.read "logs".toList) path.place =
        false := by
  obtain ⟨-, runs⟩ := openings_fresh crowdedDisk
  obtain ⟨-, -, fresh⟩ := runs [beginning "x"]
  have opens : (beginning "x").Opens (run [beginning "x"] (bare crowdedDisk))
      (.read "logs".toList) _ :=
    .begin "logs".toList "x".toList 0 default
  exact ⟨_, opens, by decide +kernel,
    (fresh _ _ _ opens fun _ _ _ _ _ =>
      returnsFromDirectories_nextPath (by decide) default).1⟩

/-- A first file whose path leads back out of a missing directory is an old one. -/
theorem opening_reuses_file :
    let disk : Disk := [("logs/x-10101-000000-000.log".toList, "old\n".toList)]
    (∃ path, (beginning "missing/../x").Opens (bare disk) (.read "logs".toList) path ∧
      disk.has path.place.text = true) ∧
    (run [beginning "missing/../x", .write 0 default "new".toList] (bare disk)).disk =
      [("logs/x-10101-000000-000.log".toList, "old\nnew\n".toList)] := by
  refine ⟨⟨_, .begin "logs".toList "missing/../x".toList 0 default, ?_⟩, ?_⟩ <;> decide +kernel

end Desk

end AuditTrail.Log
