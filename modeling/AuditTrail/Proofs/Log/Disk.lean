import AuditTrail.Log.Disk
import AuditTrail.Proofs.Path

/-!
# Following paths on a disk

A directory lies above everything on a disk.  So a path that leads back only out of directories that
are there can be followed whenever there is something at its place.
-/

namespace AuditTrail.Log

namespace Disk

variable {disk : Disk} {made path : Path} {slashes : Nat} {names : List (List Char)}
  {name : List Char}

theorem isDirectory_iff {place : Path} :
    disk.isDirectory made place = true ↔
      (∀ name ∈ place.parts, name = ['.', '.']) ∨
      (∃ file ∈ disk, (Path.read file.1).parent.passes place = true) ∨
      ∃ way ∈ made :: made.ways, way.place.passes place = true := by
  simp only [isDirectory, Bool.or_eq_true, List.all_eq_true, List.any_eq_true, beq_iff_eq,
    or_assoc]

theorem holds_iff {place : Path} :
    disk.holds made place = true ↔
      (∃ file ∈ disk, (Path.read file.1).passes place = true) ∨
        disk.isDirectory made place = true := by
  simp only [holds, Bool.or_eq_true, List.any_eq_true]

theorem leads_iff : disk.leads made path = true ↔
    ∀ way ∈ path.ways, disk.isDirectory made way.place = true := by
  simp only [leads, List.all_eq_true]

theorem leads_concat : disk.leads made ⟨slashes, names ++ [name]⟩ = true ↔
    disk.leads made ⟨slashes, names⟩ = true ∧
      disk.isDirectory made (⟨slashes, names⟩ : Path).place = true := by
  rw [leads_iff, leads_iff, Path.ways_concat, List.forall_mem_append, List.forall_mem_singleton]

/-- Above everything there is a directory. -/
theorem isDirectory_of_holds_concat (found : disk.holds made ⟨slashes, names ++ [name]⟩ = true) :
    disk.isDirectory made ⟨slashes, names⟩ = true := by
  rw [isDirectory_iff]
  rcases holds_iff.mp found with ⟨file, member, passes⟩ | directory
  · exact .inr (.inl ⟨file, member, Path.parent_passes_of_concat passes⟩)
  · rcases isDirectory_iff.mp directory with dots | ⟨file, member, passes⟩ | ⟨way, member, passes⟩
    · exact .inl fun other inside => dots other (List.mem_append_left _ inside)
    · exact .inr (.inl ⟨file, member, Path.passes_of_concat passes⟩)
    · exact .inr (.inr ⟨way, member, Path.passes_of_concat passes⟩)

/-- The first names, as many as asked for, on the ways to all that a disk holds. -/
def partsAtDepth (disk : Disk) (made : Path) (depth : Nat) : List (List (List Char)) :=
  disk.map (fun file => (Path.read file.1).parts.take depth) ++
    (made :: made.ways).map fun way => way.place.parts.take depth

theorem length_partsAtDepth (disk : Disk) (made : Path) (depth : Nat) :
    (disk.partsAtDepth made depth).length = disk.length + made.parts.length + 1 := by
  simp [partsAtDepth, Path.ways, Nat.add_assoc]

/-- A place that is held is on the way to a file or to the directory that has been made. -/
theorem mem_partsAtDepth_of_holds {place : Path} (found : disk.holds made place = true)
    (inside : name ∈ place.parts) (other : name ≠ ['.', '.']) :
    place.parts ∈ disk.partsAtDepth made place.parts.length := by
  have cut {path : Path} (passes : path.passes place = true) :
      path.parts.take place.parts.length = place.parts :=
    (List.prefix_iff_eq_take.mp (Path.passes_iff.mp passes).2).symm
  rcases holds_iff.mp found with ⟨file, member, passes⟩ | directory
  · exact List.mem_append_left _ (List.mem_map.mpr ⟨file, member, cut passes⟩)
  · rcases isDirectory_iff.mp directory with dots | ⟨file, member, passes⟩ | ⟨way, member, passes⟩
    · exact absurd (dots name inside) other
    · exact List.mem_append_left _
        (List.mem_map.mpr ⟨file, member, cut (Path.passes_of_parent passes)⟩)
    · exact List.mem_append_right _ (List.mem_map.mpr ⟨way, member, cut passes⟩)

/-- Whether a path leads back only out of directories that are there. -/
def ReturnsFromDirectories (disk : Disk) (made path : Path) : Prop :=
  ∀ names, names ++ [['.', '.']] <+: path.parts →
    disk.isDirectory made (⟨path.slashes, names⟩ : Path).place = true

/-- A path that leads back only out of directories can be followed to what is at its place. -/
theorem leads_of_holds (returns : disk.ReturnsFromDirectories made path)
    (found : disk.holds made path.place = true) : disk.leads made path = true := by
  obtain ⟨slashes, parts⟩ := path
  induction parts using List.reverseRecOn with
  | nil => rfl
  | append_singleton names name ih =>
      have above : disk.isDirectory made (⟨slashes, names⟩ : Path).place = true := by
        by_cases back : name = ['.', '.']
        · subst back
          exact returns names List.prefix_rfl
        · rw [Path.place_concat back] at found
          exact isDirectory_of_holds_concat found
      refine leads_concat.mpr ⟨ih (fun front inside => ?_) (holds_iff.mpr (.inr above)), above⟩
      exact returns front (inside.trans (List.prefix_append names [name]))

theorem finds_iff (returns : disk.ReturnsFromDirectories made path) :
    disk.finds made path = true ↔ disk.holds made path.place = true := by
  rw [finds, Bool.and_eq_true]
  exact ⟨fun found => found.2, fun found => ⟨leads_of_holds returns found, found⟩⟩

theorem mem_ways_of_append {front : List (List Char)} (inside : front ++ [name] <+: path.parts) :
    ⟨path.slashes, front⟩ ∈ path.ways := by
  obtain ⟨rest, split⟩ := inside
  refine List.mem_map.mpr ⟨front.length, List.mem_range.mpr ?_, ?_⟩
  · rw [← split]
    simp
  · rw [← split, List.append_assoc, List.take_left]

theorem returnsFromDirectories_of_leads (leads : disk.leads made path = true) :
    disk.ReturnsFromDirectories made path := fun _ inside =>
  leads_iff.mp leads _ (mem_ways_of_append inside)

/-- A path without two dots, seen from a directory that has been made, never leads back out of a
missing one. -/
theorem returnsFromDirectories_append (onward : ['.', '.'] ∉ path.parts) :
    disk.ReturnsFromDirectories made (made.append path) := by
  intro names inside
  rw [Path.append] at inside ⊢
  by_cases rooted : path.isAbsolute = true
  · rw [if_pos rooted] at inside
    exact absurd (inside.subset (by simp)) onward
  · rw [if_neg rooted] at inside ⊢
    dsimp only at inside ⊢
    have front : made.parts <+: made.parts ++ path.parts := List.prefix_append _ _
    by_cases short : (names ++ [['.', '.']]).length ≤ made.parts.length
    · have way : (⟨made.slashes, names⟩ : Path) ∈ made.ways :=
        mem_ways_of_append (List.prefix_of_prefix_length_le inside front short)
      exact isDirectory_iff.mpr (.inr (.inr ⟨_, List.mem_cons_of_mem _ way, Path.passes_self _⟩))
    · obtain ⟨more, split⟩ : made.parts <+: names := by
        apply List.prefix_of_prefix_length_le front ((List.prefix_append _ _).trans inside)
        simp at short
        omega
      rw [← split, List.append_assoc, List.prefix_append_right_inj] at inside
      exact absurd (inside.subset (by simp)) onward

/-- Whether all files are still there, with nothing changed but what was written behind. -/
def Extends (disk later : Disk) : Prop :=
  ∀ file ∈ disk, ∃ more, (file.1, file.2 ++ more) ∈ later

theorem Extends.refl (disk : Disk) : disk.Extends disk := fun file member =>
  ⟨[], by simpa using member⟩

theorem Extends.trans {disk middle later : Disk} (first : disk.Extends middle)
    (second : middle.Extends later) : disk.Extends later := by
  intro file member
  obtain ⟨more, kept⟩ := first file member
  obtain ⟨further, still⟩ := second _ kept
  exact ⟨more ++ further, by simpa [List.append_assoc] using still⟩

theorem create_of_has {text : List Char} (old : disk.has text = true) :
    disk.create text = disk := by
  rw [create, if_pos old]

theorem create_of_not_has {text : List Char} (new : disk.has text = false) :
    disk.create text = disk ++ [(text, [])] := by
  rw [create, new]
  rfl

theorem extends_create (disk : Disk) (text : List Char) : disk.Extends (disk.create text) := by
  cases old : disk.has text with
  | true =>
      rw [create_of_has old]
      exact .refl disk
  | false =>
      rw [create_of_not_has old]
      exact fun file member => ⟨[], by simp [member]⟩

theorem extends_extend (disk : Disk) (text line : List Char) :
    disk.Extends (disk.extend text line) := by
  intro file member
  by_cases same : file.1 == text
  · exact ⟨line, List.mem_map.mpr ⟨file, member, if_pos same⟩⟩
  · exact ⟨[], List.mem_map.mpr ⟨file, member, by simp [same]⟩⟩

theorem has_iff {text : List Char} : disk.has text = true ↔ ∃ file ∈ disk, file.1 = text := by
  simp only [has, List.any_eq_true, beq_iff_eq]

theorem Extends.has {later : Disk} {text : List Char} (grown : disk.Extends later)
    (old : disk.has text = true) : later.has text = true := by
  obtain ⟨file, member, same⟩ := has_iff.mp old
  obtain ⟨more, kept⟩ := grown file member
  exact has_iff.mpr ⟨_, kept, same⟩

theorem has_create_iff {text other : List Char} :
    (disk.create text).has other = true ↔ disk.has other = true ∨ text = other := by
  cases old : disk.has text with
  | true =>
      rw [create_of_has old]
      exact ⟨.inl, fun either => either.elim id fun same => same ▸ old⟩
  | false => simp [create_of_not_has old, has_iff, or_and_right, exists_or]

theorem has_create (disk : Disk) (text : List Char) : (disk.create text).has text = true :=
  has_create_iff.mpr (.inr rfl)

theorem has_extend (disk : Disk) (text line other : List Char) :
    (disk.extend text line).has other = disk.has other := by
  rw [has, extend, List.any_map, has]
  congr 1
  funext file
  simp only [Function.comp_apply, apply_ite Prod.fst, ite_self]

theorem extend_nil (disk : Disk) (text : List Char) : disk.extend text [] = disk := by
  simp [extend]

theorem extend_of_not_has {text : List Char} (new : disk.has text = false) (line : List Char) :
    disk.extend text line = disk := by
  refine (List.map_congr_left fun file member => if_neg fun same => ?_).trans (List.map_id disk)
  rw [has_iff.mpr ⟨file, member, beq_iff_eq.mp same⟩] at new
  cases new

theorem extend_create_of_not_has {text : List Char} (new : disk.has text = false)
    (line : List Char) : (disk.create text).extend text line = disk ++ [(text, line)] := by
  have kept := extend_of_not_has new line
  rw [extend] at kept
  rw [create_of_not_has new, extend, List.map_append, kept]
  simp

/-- There is no file at a place that holds nothing. -/
theorem has_eq_false {place : Path} (proper : place.IsProper)
    (free : disk.holds made place = false) : disk.has place.text = false := by
  cases old : disk.has place.text with
  | false => rfl
  | true =>
      obtain ⟨file, member, same⟩ := has_iff.mp old
      have held : disk.holds made place = true :=
        holds_iff.mpr (.inl ⟨file, member, by rw [same, Path.read_text proper, Path.passes_self]⟩)
      rw [free] at held
      cases held

end Disk

end AuditTrail.Log
