import AuditTrail.Log.Channels
import AuditTrail.Proofs.Number.Integer
import AuditTrail.Proofs.Text.Case

/-!
# Thresholds from texts

A text means a threshold by its number or by its name, and every other text means the usual
threshold.  The exception are texts of digits from which no number is read: there the log is not
started at all.
-/

namespace AuditTrail.Log

open Text

/-- Digits have no letter case. -/
theorem upper_of_isDigit {text : List Char} (digits : ∀ c ∈ text, isDigit c = true) :
    upper text = text := by
  have uncased : ∀ range ∈ digitRanges, (∀ run ∈ upperRuns,
      run.last < range.1 ∨ range.2 < run.first) ∧ ∀ entry ∈ upperExpansions,
        entry.1 < range.1 ∨ range.2 < entry.1 := by decide +kernel
  have single {c : Char} (digit : isDigit c = true) : upperChar c = [c] := by
    obtain ⟨range, member, above, below⟩ := exists_range_of_isDigit digit
    obtain ⟨runs, expansions⟩ := uncased range member
    apply mapCase_eq_self
    · intro run listed
      exact (runs run listed).imp (by omega) (by omega)
    · intro entry listed
      have apart := expansions entry listed
      omega
  calc
    upper text = text.flatMap fun c => [c] :=
      List.flatMap_congr fun c member => single (digits c member)
    _ = text := List.flatMap_singleton' text

theorem weightOf?_of_mem {entry : String × Int} (listed : entry ∈ namedWeights) :
    weightOf? entry.1.toList = some entry.2 := by
  have table : ∀ entry ∈ namedWeights, namedWeights.lookup entry.1 = some entry.2 := by
    decide +kernel
  rw [weightOf?, String.ofList_toList, table entry listed]

theorem weightOf?_eq_none {name : List Char}
    (unlisted : ∀ entry ∈ namedWeights, name ≠ entry.1.toList) : weightOf? name = none := by
  rw [weightOf?, List.lookup_eq_none_iff]
  intro entry listed
  rw [bne_iff_ne]
  intro same
  exact unlisted entry listed (by rw [← same, String.toList_ofList])

theorem not_isNumeric_of_upper {word : List Char} {entry : String × Int}
    (listed : entry ∈ namedWeights) (spelled : upper word = entry.1.toList) :
    ¬ IsNumeric word := by
  have lettered : ∀ entry ∈ namedWeights, entry.1.toList.all isDigit = false := by
    decide +kernel
  intro numeric
  have letter := lettered entry listed
  rw [← spelled, upper_of_isDigit numeric.2, List.all_eq_true.mpr numeric.2] at letter
  cases letter

namespace Threshold

/-- What a word means as a threshold. -/
inductive Means : List Char → Int → Prop where
  /-- A numeral means its number. -/
  | number {word : List Char} (numeral : IsNumeral word) : Means word (decimalNumber word)
  /-- A name means its weight, in any letter case. -/
  | name {word : List Char} {entry : String × Int} (listed : entry ∈ namedWeights)
      (spelled : upper word = entry.1.toList) : Means word entry.2
  /-- Every other word means the usual threshold. -/
  | other {word : List Char} (numberless : ¬ IsNumeric word)
      (nameless : ∀ entry ∈ namedWeights, upper word ≠ entry.1.toList) : Means word usual.weight

/-- Digits from which no number is read. -/
def IsUnreadable (word : List Char) : Prop := IsNumeric word ∧ ¬ IsNumeral word

/-- A word means a threshold unless it is unreadable. -/
theorem exists_means {word : List Char} (readable : ¬ IsUnreadable word) : ∃ n, Means word n := by
  by_cases numeric : IsNumeric word
  · have numeral : IsNumeral word := not_not.mp fun stray => readable ⟨numeric, stray⟩
    exact ⟨_, .number numeral⟩
  · by_cases named : ∃ entry ∈ namedWeights, upper word = entry.1.toList
    · obtain ⟨entry, listed, spelled⟩ := named
      exact ⟨_, .name listed spelled⟩
    · push Not at named
      exact ⟨_, .other numeric named⟩

theorem isNumeric_iff {word : List Char} :
    (!word.isEmpty && word.all isDigit) = true ↔ IsNumeric word := by
  rw [IsNumeric, Bool.and_eq_true, Bool.not_eq_true', List.isEmpty_eq_false_iff, List.all_eq_true]

theorem ofText_of_not_isNumeric {text : List Char} (numberless : ¬ IsNumeric (trim text)) :
    ofText text = .ok (((weightOf? (upper (trim text))).map number).getD usual) :=
  if_neg fun digits => numberless (isNumeric_iff.mp digits)

theorem ofText_of_isNumeric {text : List Char} (numeric : IsNumeric (trim text)) :
    ofText text = match readInteger? (trim text) with
      | some n => .ok (number n)
      | none => .error (.unconvertible .invalid) :=
  if_pos (isNumeric_iff.mpr numeric)

theorem ofText_of_means {text : List Char} {n : Int} (means : Means (trim text) n) :
    ofText text = .ok (number n) := by
  generalize shown : trim text = word at means
  cases means with
  | number numeral =>
      subst shown
      rw [ofText_of_isNumeric numeral.isNumeric, readInteger?_of_isNumeral numeral]
  | name listed spelled =>
      subst shown
      rw [ofText_of_not_isNumeric (not_isNumeric_of_upper listed spelled), spelled,
        weightOf?_of_mem listed]
      rfl
  | other numberless nameless =>
      subst shown
      rw [ofText_of_not_isNumeric numberless, weightOf?_eq_none nameless]
      rfl

theorem ofText_of_isUnreadable {text : List Char} (unreadable : IsUnreadable (trim text)) :
    ofText text = .error (.unconvertible .invalid) := by
  rw [ofText_of_isNumeric unreadable.1, readInteger?_eq_none unreadable.1 unreadable.2]

/-- Whether a text is a name with blanks around it, in any case of its letters. -/
def Spells (text : List Char) (name : String) : Prop :=
  ∃ front word back, text = front ++ word ++ back ∧ (∀ c ∈ front, isBlank c = true) ∧
    (∀ c ∈ back, isBlank c = true) ∧ word.map Char.toUpper = name.toList

theorem Spells.means {text : List Char} {entry : String × Int} (spells : Spells text entry.1)
    (listed : entry ∈ namedWeights) : Means (trim text) entry.2 := by
  obtain ⟨front, word, back, rfl, before, behind, spelled⟩ := spells
  have capitals : ∀ entry ∈ namedWeights, entry.1.toList.all Char.isUpper = true := by
    decide +kernel
  have capital {c : Char} (member : c ∈ word) : c.toUpper.isUpper = true := by
    apply List.all_eq_true.mp (capitals entry listed)
    rw [← spelled]
    exact List.mem_map_of_mem member
  have ascii {c : Char} (member : c ∈ word) : c.toNat < 128 := by
    have top : c.toUpper.toNat ≤ 90 :=
      UInt32.le_iff_toNat_le.mp (of_decide_eq_true (capital member)).2
    exact lt_of_toUpper_lt (by omega)
  have solid {c : Char} (member : c ∈ word) : isBlank c = false :=
    forall_ascii (p := fun c => c.toUpper.isUpper = true → isBlank c = false) (by decide +kernel)
      c (ascii member) (capital member)
  have kept : trim (front ++ word ++ back) = word :=
    (trimBy_append_append word before behind).trans
      (trimBy_eq_self (fun c head => solid (List.mem_of_mem_head? head))
        (fun c last => solid (List.mem_of_getLast? last)))
  rw [kept]
  exact .name listed ((upper_of_forall_lt fun c member => ascii member).trans spelled)

/-! ## Who gives the text -/

/-- Whether a text is what decides the threshold: it is given, or else it is the setting. -/
inductive Decides (environment : Environment) : Value → String → Prop where
  | given (text : String) : Decides environment (.text text) text
  | setting {text : String} (set : environment.get? "LOG_LEVEL" = some text) :
      Decides environment .null text

theorem Decides.read_eq {environment : Environment} {value : Value} {text : String}
    (decides : Decides environment value text) : read environment value = ofText text.toList := by
  cases decides with
  | given => rfl
  | setting set =>
      rw [read, ofEnvironment, set]
      by_cases empty : text = ""
      · have other : Means (trim []) usual.weight :=
          .other (fun numeric => numeric.1 rfl) (by decide +kernel)
        subst empty
        exact (ofText_of_means other).symm
      · exact if_neg (by simpa using empty)

end Threshold

namespace State

variable {program : Program} {options : Options}

theorem start_of_error {fault : Fault}
    (refused : Threshold.read program.environment options.threshold = .error fault) (now : Moment)
    (state : State) : start program options now state = .error fault := by
  rw [start, refused]
  rfl

theorem exists_start {threshold : Threshold}
    (read : Threshold.read program.environment options.threshold = .ok threshold) (now : Moment)
    (state : State) : ∃ later, start program options now state = .ok later := by
  rw [start, read]
  exact ⟨_, rfl⟩

/-- Every text is tolerated as a threshold, given or in the environment settings, except for
unreadable digits.  A numeral means its number, a name in any letter case and with any blanks
around it means its weight, and everything else means the usual threshold. -/
theorem start_of_text {text : String}
    (decides : Threshold.Decides program.environment options.threshold text) (now : Moment)
    (state : State) :
    (∀ n, Threshold.read program.environment options.threshold = .ok (.number n) ↔
      Threshold.Means (trim text.toList) n) ∧
    (∀ entry ∈ namedWeights, Threshold.Spells text.toList entry.1 →
      Threshold.read program.environment options.threshold = .ok (.number entry.2)) ∧
    (¬ Threshold.IsUnreadable (trim text.toList) →
      (∃ n, Threshold.read program.environment options.threshold = .ok (.number n)) ∧
      ∃ later, start program options now state = .ok later) ∧
    (Threshold.IsUnreadable (trim text.toList) →
      Threshold.read program.environment options.threshold = .error (.unconvertible .invalid) ∧
      start program options now state = .error (.unconvertible .invalid)) := by
  have means {n : Int} (means : Threshold.Means (trim text.toList) n) :
      Threshold.read program.environment options.threshold = .ok (.number n) := by
    rw [decides.read_eq, Threshold.ofText_of_means means]
  have refused (unreadable : Threshold.IsUnreadable (trim text.toList)) :
      Threshold.read program.environment options.threshold =
        .error (.unconvertible .invalid) := by
    rw [decides.read_eq, Threshold.ofText_of_isUnreadable unreadable]
  refine ⟨fun n => ⟨fun read => ?_, means⟩, fun entry listed spells => means (spells.means listed),
    fun readable => ?_, fun unreadable => ?_⟩
  · by_cases unreadable : Threshold.IsUnreadable (trim text.toList)
    · rw [refused unreadable] at read
      cases read
    · obtain ⟨m, meant⟩ := Threshold.exists_means unreadable
      rw [means meant] at read
      cases read
      exact meant
  · obtain ⟨n, meant⟩ := Threshold.exists_means readable
    exact ⟨⟨n, means meant⟩, exists_start (means meant) now state⟩
  · exact ⟨refused unreadable, start_of_error (refused unreadable) now state⟩

end State

/-- A program with a text as the threshold in its environment settings. -/
def asking (text : String) : Program := ⟨[("LOG_LEVEL", text)], ⟨1, []⟩, 4242⟩

/-- The usual way of starting the log. -/
def usualOptions : Options := ⟨"auditlog".toList, none, .null, true, 1000000⟩

/-- A log without any channels. -/
def State.bare : State := ⟨.usual, [], [], 0, [], []⟩

/-- A name in mixed case between blanks has its weight, and the log is started. -/
theorem State.start_of_text_mixedCase :
    Threshold.read (asking " DeBuG\t").environment usualOptions.threshold = .ok (.number 10) ∧
      ∃ later, start (asking " DeBuG\t") usualOptions default bare = .ok later := by
  have decides : Threshold.Decides (asking " DeBuG\t").environment usualOptions.threshold
      " DeBuG\t" := .setting rfl
  obtain ⟨-, named, readable, unreadable⟩ := start_of_text decides default bare
  have spells : Threshold.Spells " DeBuG\t".toList "DEBUG" :=
    ⟨[' '], "DeBuG".toList, ['\t'], by decide, List.forall_mem_singleton.mpr (by decide),
      List.forall_mem_singleton.mpr (by decide), by decide⟩
  have debug := named ("DEBUG", 10) (by decide) spells
  refine ⟨debug, (readable fun stray => ?_).2⟩
  have refused := (unreadable stray).1
  rw [debug] at refused
  cases refused

/-- A superscript is a digit without a number, and the log is not started because of it. -/
theorem State.start_superscript :
    Threshold.read [] (.text "²") = .error (.unconvertible .invalid) ∧
      start (asking "²") usualOptions default bare = .error (.unconvertible .invalid) := by
  have unreadable : Threshold.IsUnreadable (trim "²".toList) := by
    have kept : trim "²".toList = ['²'] := by decide
    rw [kept]
    refine ⟨⟨by simp, List.forall_mem_singleton.mpr (by decide)⟩, fun numeral => ?_⟩
    have decimal := numeral.2.1 '²' List.mem_cons_self
    exact absurd decimal (by decide)
  have refused := Threshold.ofText_of_isUnreadable unreadable
  have setting : Threshold.Decides (asking "²").environment usualOptions.threshold "²" :=
    .setting rfl
  exact ⟨refused, start_of_error (setting.read_eq.trans refused) default bare⟩

end AuditTrail.Log
