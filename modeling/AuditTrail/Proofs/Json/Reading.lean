import AuditTrail.Json.Printer
import AuditTrail.Json.Reader
import AuditTrail.Proofs.Text.Blank
import Mathlib.Algebra.BigOperators.Group.List.Basic

/-!
# Reading what was written

A string is read back whatever characters it has, escaped ones and those beyond sixteen bits
included.  A map whose values are read back is read back as a whole, with or without space between
its parts.
-/

namespace AuditTrail

namespace Text

theorem hexDigits_succ (width n : Nat) :
    hexDigits (width + 2) n = hexDigits (width + 1) (n / 16) ++ [Nat.digitChar (n % 16)] := by
  by_cases single : n < 16
  · have quotient : n / 16 = 0 := by omega
    have remainder : n % 16 = n := by omega
    simp [hexDigits, quotient, remainder, Nat.toDigits_of_lt_base single, List.replicate_succ']
  · rw [hexDigits, hexDigits, Nat.toDigits_of_base_le (by decide) (by omega)]
    simp

theorem hexDigits_four {n : Nat} (small : n < 0x10000) :
    hexDigits 4 n = [Nat.digitChar (n / 0x1000), Nat.digitChar (n / 0x100 % 16),
      Nat.digitChar (n / 0x10 % 16), Nat.digitChar (n % 16)] := by
  have first : hexDigits 1 (n / 16 / 16 / 16) = [Nat.digitChar (n / 0x1000)] := by
    rw [hexDigits, Nat.toDigits_of_lt_base (by omega)]
    simp [Nat.div_div_eq_div_mul]
  rw [hexDigits_succ, hexDigits_succ, hexDigits_succ, first]
  simp [Nat.div_div_eq_div_mul]

end Text

theorem Address.hexValue?_digitChar : ∀ d < 16, hexValue? (Nat.digitChar d) = some d := by
  decide

namespace Json

open Text

theorem hex4?_hexDigits {n : Nat} (small : n < 0x10000) (rest : List Char) :
    hex4? (hexDigits 4 n ++ rest) = some (n, rest) := by
  have values (d : Nat) (digit : d < 16) := Address.hexValue?_digitChar d digit
  rw [hexDigits_four small]
  simp only [List.cons_append, List.nil_append, hex4?, values (n / 0x1000) (by omega),
    values (n / 0x100 % 16) (by omega), values (n / 0x10 % 16) (by omega),
    values (n % 16) (by omega), Option.bind_eq_bind, Option.bind_some, Option.pure_def,
    Option.some.injEq, Prod.mk.injEq, and_true]
  omega

theorem escapedUnit?_unit {n : Nat} (small : n < 0x10000) (whole : n < 0xD800 ∨ 0xE000 ≤ n)
    (rest : List Char) : escapedUnit? (hexDigits 4 n ++ rest) = some (Char.ofNat n, rest) := by
  have high : isHighSurrogate n = false := by
    simp [isHighSurrogate]
    omega
  have alone : unitChar n = Char.ofNat n := by
    rw [unitChar, if_neg]
    simp
    omega
  simp [escapedUnit?, hex4?_hexDigits small, high, alone]

theorem escapedUnit?_pair {high low : Nat} (first : high < 0x400) (second : low < 0x400)
    (rest : List Char) :
    escapedUnit? (hexDigits 4 (0xD800 + high) ++
        '\\' :: 'u' :: (hexDigits 4 (0xDC00 + low) ++ rest)) =
      some (Char.ofNat (0x10000 + high * 0x400 + low), rest) := by
  have isHigh : isHighSurrogate (0xD800 + high) = true := by
    simp [isHighSurrogate]
    omega
  have isLow : isLowSurrogate (0xDC00 + low) = true := by
    simp [isLowSurrogate]
    omega
  simp [escapedUnit?, hex4?_hexDigits (show 0xD800 + high < 0x10000 by omega),
    hex4?_hexDigits (show 0xDC00 + low < 0x10000 by omega), isHigh, isLow]

theorem stringTail?_escapedUnit {n : Nat} (small : n < 0x10000) (whole : n < 0xD800 ∨ 0xE000 ≤ n)
    (fuel : Nat) (rest done : List Char) :
    stringTail? (fuel + 1) (escapedUnit n ++ rest) done =
      stringTail? fuel rest (Char.ofNat n :: done) := by
  simp [escapedUnit, stringTail?, escapedUnit?_unit small whole]

theorem stringTail?_pair {high low : Nat} (first : high < 0x400) (second : low < 0x400)
    (fuel : Nat) (rest done : List Char) :
    stringTail? (fuel + 1)
        (escapedUnit (0xD800 + high) ++ escapedUnit (0xDC00 + low) ++ rest) done =
      stringTail? fuel rest (Char.ofNat (0x10000 + high * 0x400 + low) :: done) := by
  simp [escapedUnit, stringTail?, escapedUnit?_pair first second]

theorem stringTail?_plain {c : Char} (plain : 0x20 ≤ c.toNat) (quote : c ≠ '"')
    (slash : c ≠ '\\') (fuel : Nat) (rest done : List Char) :
    stringTail? (fuel + 1) (c :: rest) done = stringTail? fuel rest (c :: done) := by
  have shown : ¬ (c.toNat < 0x20 ∨ c = '\\') := by
    rintro (low | same)
    · omega
    · exact slash same
  rw [stringTail?.eq_def]
  simp (disch := simp_all) [shown]

theorem stringTail?_escape {letter c : Char} (known : simpleEscape? letter = some c)
    (fuel : Nat) (rest done : List Char) :
    stringTail? (fuel + 1) ('\\' :: letter :: rest) done = stringTail? fuel rest (c :: done) := by
  have other : letter ≠ 'u' := by
    rintro rfl
    cases known
  rw [stringTail?.eq_def]
  simp [known]

/-- A written character is read back. -/
theorem stringTail?_stringChar (c : Char) (fuel : Nat) (rest done : List Char) :
    stringTail? (fuel + 1) (stringChar c ++ rest) done = stringTail? fuel rest (c :: done) := by
  have valid : c.toNat < 0xD800 ∨ (0xDFFF < c.toNat ∧ c.toNat < 0x110000) := by
    have valid := c.valid
    simpa only [UInt32.isValidChar, Nat.isValidChar, Char.toNat_val] using valid
  have back : Char.ofNat c.toNat = c := Char.ofNat_toNat c
  rw [stringChar]
  split
  · next same =>
      rw [beq_iff_eq.mp same]
      exact stringTail?_escape rfl fuel rest done
  split
  · next same =>
      rw [beq_iff_eq.mp same]
      exact stringTail?_escape rfl fuel rest done
  split
  · next same =>
      rw [beq_iff_eq.mp same]
      exact stringTail?_escape rfl fuel rest done
  split
  · next same =>
      rw [beq_iff_eq.mp same]
      exact stringTail?_escape rfl fuel rest done
  split
  · next same =>
      rw [beq_iff_eq.mp same]
      exact stringTail?_escape rfl fuel rest done
  split
  · next eight =>
      rw [← back, beq_iff_eq.mp eight]
      exact stringTail?_escape rfl fuel rest done
  split
  · next twelve =>
      rw [← back, beq_iff_eq.mp twelve]
      exact stringTail?_escape rfl fuel rest done
  dsimp only
  split
  · next quote slash _ _ _ _ _ plain =>
      simp only [Bool.and_eq_true, decide_eq_true_eq] at plain
      exact stringTail?_plain plain.1 (by simpa using quote) (by simpa using slash) fuel rest done
  split
  · next small => rw [stringTail?_escapedUnit small (by omega), back]
  · next wide =>
      have sum : 0x10000 + (c.toNat - 0x10000) / 0x400 * 0x400 + (c.toNat - 0x10000) % 0x400 =
          c.toNat := by omega
      rw [stringTail?_pair (by omega) (by omega), sum, back]

theorem stringChar_ne_nil (c : Char) : stringChar c ≠ [] := by
  intro empty
  have read := stringTail?_stringChar c 1 ['"'] []
  simp [empty, stringTail?] at read

theorem length_le_flatMap {α : Type} {body : α → List Char} (filled : ∀ x, body x ≠ [])
    (items : List α) : items.length ≤ (items.flatMap body).length := by
  have each : ∀ n ∈ items.map fun x => (body x).length, 1 ≤ n := by
    intro n counted
    obtain ⟨x, -, rfl⟩ := List.mem_map.mp counted
    exact List.length_pos_iff.mpr (filled x)
  rw [List.length_flatMap]
  simpa using List.length_le_sum_of_one_le _ each

theorem stringTail?_flatMap_stringChar {text : List Char} {fuel : Nat}
    (enough : text.length < fuel) (rest done : List Char) :
    stringTail? fuel (text.flatMap stringChar ++ '"' :: rest) done =
      some (text.reverse ++ done, rest) := by
  induction text generalizing fuel done with
  | nil =>
      obtain ⟨fuel, rfl⟩ := Nat.exists_eq_add_one.mpr enough
      simp [stringTail?]
  | cons c more ih =>
      obtain ⟨fuel, rfl⟩ : ∃ less, fuel = less + 1 :=
        ⟨fuel - 1, by simp at enough; omega⟩
      rw [List.flatMap_cons, List.append_assoc, stringTail?_stringChar,
        ih (by simpa using enough)]
      simp

/-- A written string is read back, whatever characters it has. -/
theorem string?_string (text rest : List Char) :
    string? (text.flatMap stringChar ++ '"' :: rest) = some (String.ofList text, rest) := by
  have enough : text.length < (text.flatMap stringChar ++ '"' :: rest).length + 1 := by
    have := length_le_flatMap stringChar_ne_nil text
    rw [List.length_append, List.length_cons]
    omega
  rw [string?, stringTail?_flatMap_stringChar enough]
  simp

theorem skipSpace_cons {c : Char} (dense : isSpace c = false) (rest : List Char) :
    skipSpace (c :: rest) = c :: rest :=
  List.dropWhile_cons_of_neg (by simp [dense])

/-- What stands behind the value of an entry. -/
inductive EndsEntry : List Char → Prop where
  | comma (rest : List Char) : EndsEntry (',' :: rest)
  | brace (rest : List Char) : EndsEntry ('\x7d' :: rest)

/-- Whether a text is read as a value within a map. -/
structure Writes (text : List Char) (v : Value) : Prop where
  dense : ∀ rest, skipSpace (text ++ rest) = text ++ rest
  reads : ∀ fuel depth rest, EndsEntry rest →
    value (fuel + 1) depth (text ++ rest) = .ok (v, rest)

theorem writes_string (text : List Char) : Writes (string text) (.text (String.ofList text)) where
  dense rest := skipSpace_cons (by decide) _
  reads fuel depth rest _ := by simp [string, value, string?_string]

theorem writes_false : Writes "false".toList (.bool false) where
  dense rest := skipSpace_cons (by decide) _
  reads fuel depth rest _ := by simp [value, word?, wordValues]

theorem isDigit_of_mem_toDigits {n : Nat} {c : Char} (digit : c ∈ Nat.toDigits 10 n) :
    c.isDigit = true :=
  Nat.isDigit_of_mem_toDigits (by decide) (by decide) digit

/-- The digits of a number begin with no zero unless they are that zero. -/
theorem toDigits_eq_cons (n : Nat) :
    ∃ first rest, Nat.toDigits 10 n = first :: rest ∧ first.isDigit = true ∧
      (first = '0' → rest = []) := by
  induction n using Nat.strongRecOn with
  | ind n ih =>
      by_cases single : n < 10
      · have digits := Nat.toDigits_of_lt_base single
        have digit : (Nat.digitChar n).isDigit = true :=
          @isDigit_of_mem_toDigits n _ (by simp [digits])
        exact ⟨_, [], digits, digit, fun _ => rfl⟩
      · obtain ⟨first, rest, digits, digit, zero⟩ := ih (n / 10) (by omega)
        refine ⟨first, rest ++ [Nat.digitChar (n % 10)], ?_, digit, fun isZero => ?_⟩
        · rw [Nat.toDigits_of_base_le (by decide) (by omega), digits, List.cons_append]
        · -- A zero alone would stand for a number that is not zero.
          have back := @Nat.ofDigitChars_ten_toDigits (n / 10)
          rw [digits, isZero, zero isZero] at back
          simp [Nat.ofDigitChars] at back
          omega

theorem ofDigits_toDigits (n : Nat) :
    ofDigits ((Nat.toDigits 10 n).map Scientific.plainValue) = n := by
  rw [ofDigits, List.foldl_map]
  have back := @Nat.ofDigitChars_ten_toDigits n
  rw [Nat.ofDigitChars] at back
  simpa [Nat.mul_comm, Scientific.plainValue] using back

theorem wholeDigits_toDigits (n : Nat) {rest : List Char} (ends : EndsEntry rest) :
    wholeDigits (Nat.toDigits 10 n ++ rest) = Nat.toDigits 10 n := by
  obtain ⟨first, more, digits, -, zero⟩ := toDigits_eq_cons n
  have stops : rest.takeWhile Char.isDigit = [] := by cases ends <;> rfl
  rw [digits, List.cons_append, wholeDigits.eq_def]
  split
  · next isZero =>
      obtain rfl := (List.cons.inj isZero).1
      rw [zero rfl]
  · rw [← List.cons_append, ← digits,
      List.takeWhile_append_of_pos fun c digit => isDigit_of_mem_toDigits digit, stops,
      List.append_nil]

theorem number?_toDigits {n : Nat} (short : (Nat.toDigits 10 n).length ≤ maxReadDigits)
    {rest : List Char} (ends : EndsEntry rest) :
    number? (Nat.toDigits 10 n ++ rest) = .ok (.int n, rest) := by
  obtain ⟨first, more, digits, digit, -⟩ := toDigits_eq_cons n
  have unsigned : (Nat.toDigits 10 n ++ rest).head? ≠ some '-' := by
    rw [digits]
    rintro ⟨⟩
    cases digit
  have fraction : fractionDigits rest = [] := by cases ends <;> rfl
  have exponent : exponentPart rest = (0, 0) := by cases ends <;> rfl
  rw [number?]
  simp only [beq_false_of_ne unsigned]
  simp [wholeDigits_toDigits n ends, fraction, exponent, ofDigits_toDigits, Nat.toDigits_ne_nil,
    short]

theorem writes_natural {n : Nat} (short : (Nat.toDigits 10 n).length ≤ maxReadDigits) :
    Writes (integerText n) (.int n) := by
  have digits : integerText n = Nat.toDigits 10 n := by simp [integerText]
  rw [digits]
  obtain ⟨first, more, begins, digit, -⟩ := toDigits_eq_cons n
  have other {c : Char} (no : c.isDigit = false) : c ≠ first ∧ first ≠ c := by
    constructor <;>
    · rintro rfl
      rw [digit] at no
      cases no
  constructor
  · intro rest
    rw [begins]
    exact skipSpace_cons (by simp [isSpace, other]) _
  · intro fuel depth rest ends
    have number := number?_toDigits short ends
    rw [begins] at number ⊢
    have noWord : word? (first :: more ++ rest) = none := by
      simp [word?, wordValues, List.isPrefixOf, other]
    rw [List.cons_append] at number noWord ⊢
    rw [value.eq_def]
    split
    all_goals simp_all

/-- The text of an entry, with a gap before the value. -/
def entryText (gap : List Char) (entry : String × List Char) : List Char :=
  string entry.1.toList ++ ':' :: gap ++ entry.2

/-- The text of a map, with a gap after each mark. -/
def mapText (gap : List Char) (parts : List (String × List Char)) : List Char :=
  '\x7b' :: join (',' :: gap) (parts.map (entryText gap)) ++ ['\x7d']

/-- The entries of a map that are read one after the other. -/
def gathered (before written : List (String × Value)) : List (String × Value) :=
  written.foldl (fun done entry => Value.insert entry.1 entry.2 done) before

/-- Whether a text with a name is read as a value with the same name. -/
def WritesEntry (part : String × List Char) (entry : String × Value) : Prop :=
  part.1 = entry.1 ∧ Writes part.2 entry.2

theorem Writes.entry {text : List Char} {v : Value} (writes : Writes text v) (name : String) :
    WritesEntry (name, text) (name, v) :=
  ⟨rfl, writes⟩

variable {gap : List Char} {part : String × List Char} {entry : String × Value}
  {parts : List (String × List Char)} {written : List (String × Value)}

theorem skipSpace_append (spaces : ∀ c ∈ gap, isSpace c = true) (rest : List Char) :
    skipSpace (gap ++ rest) = skipSpace rest := by
  rw [skipSpace, List.dropWhile_append_of_pos spaces]
  rfl

/-- An entry is put into those before it, and then the map ends or goes on. -/
theorem entries_entryText (spaces : ∀ c ∈ gap, isSpace c = true) (writes : WritesEntry part entry)
    (fuel depth : Nat) (before : List (String × Value)) (rest : List Char) :
    entries (fuel + 2) depth before (entryText gap part ++ '\x7d' :: rest) =
        .ok (Value.insert entry.1 entry.2 before, rest) ∧
      entries (fuel + 2) depth before (entryText gap part ++ ',' :: rest) =
        entries (fuel + 1) depth (Value.insert entry.1 entry.2 before) (skipSpace rest) := by
  obtain ⟨named, writes⟩ := writes
  have begins (rest : List Char) : entryText gap part ++ rest =
      '"' :: (entry.1.toList.flatMap stringChar ++ '"' :: ':' :: (gap ++ (part.2 ++ rest))) := by
    simp [entryText, string, named]
  have dense (rest : List Char) : skipSpace (gap ++ (part.2 ++ rest)) = part.2 ++ rest := by
    rw [skipSpace_append spaces, writes.dense]
  have colon : isSpace ':' = false := by decide
  have brace : isSpace '\x7d' = false := by decide
  have comma : isSpace ',' = false := by decide
  constructor
  · have reads := writes.reads fuel depth ('\x7d' :: rest) (.brace rest)
    rw [begins, entries, string?_string]
    simp only [skipSpace_cons colon, dense, reads, Bind.bind, Except.bind, skipSpace_cons brace,
      String.ofList_toList]
    rfl
  · have reads := writes.reads fuel depth (',' :: rest) (.comma rest)
    rw [begins, entries, string?_string]
    simp only [skipSpace_cons colon, dense, reads, Bind.bind, Except.bind, skipSpace_cons comma,
      String.ofList_toList]

theorem skipSpace_entryText (gap : List Char) (part : String × List Char) (rest : List Char) :
    skipSpace (entryText gap part ++ rest) = entryText gap part ++ rest :=
  skipSpace_cons (by decide) _

theorem entries_join (spaces : ∀ c ∈ gap, isSpace c = true) (first : WritesEntry part entry)
    (all : List.Forall₂ WritesEntry parts written) {fuel : Nat} (enough : parts.length + 1 < fuel)
    (depth : Nat) (before : List (String × Value)) (rest : List Char) :
    entries fuel depth before
        (join (',' :: gap) ((part :: parts).map (entryText gap)) ++ '\x7d' :: rest) =
      .ok (gathered before (entry :: written), rest) := by
  rw [List.map_cons, join_cons, List.flatMap_map, List.append_assoc]
  obtain ⟨fuel, rfl⟩ : ∃ less, fuel = less + 2 := ⟨fuel - 2, by omega⟩
  induction all generalizing part entry fuel before with
  | nil => exact (entries_entryText spaces first fuel depth before rest).1
  | @cons next found parts written follows all ih =>
      rw [List.length_cons] at enough
      obtain ⟨fuel, rfl⟩ : ∃ less, fuel = less + 1 := ⟨fuel - 1, by omega⟩
      have step := (entries_entryText spaces first (fuel + 1) depth before (gap ++
        (entryText gap next ++ ((parts.flatMap fun part => ',' :: gap ++ entryText gap part) ++
          '\x7d' :: rest)))).2
      rw [skipSpace_append spaces, skipSpace_entryText] at step
      simpa [gathered] using step.trans (ih follows _ fuel (by omega))

theorem value_mapText (spaces : ∀ c ∈ gap, isSpace c = true)
    (all : List.Forall₂ WritesEntry parts written) {fuel : Nat} (enough : parts.length < fuel)
    (depth : Nat) (rest : List Char) :
    value (fuel + 1) (depth + 1) (mapText gap parts ++ rest) =
      .ok (.map (gathered [] written), rest) := by
  have begins : mapText gap parts ++ rest =
      '\x7b' :: (join (',' :: gap) (parts.map (entryText gap)) ++ '\x7d' :: rest) := by
    simp [mapText]
  rw [begins, value]
  cases all with
  | nil => rfl
  | @cons part entry parts written first all =>
      have goes := entries_join spaces first all enough depth [] rest
      obtain ⟨inner, opens⟩ : ∃ inner, join (',' :: gap) ((part :: parts).map (entryText gap)) ++
          '\x7d' :: rest = '"' :: inner := by
        simp [join_cons, entryText, string]
      rw [opens] at goes ⊢
      rw [skipSpace_cons (by decide)]
      change (entries fuel depth [] ('"' :: inner) >>= fun done =>
        pure (Value.map done.1, done.2)) = _
      rw [goes]
      rfl

/-- A written map is read back where there is room for one level, with space behind it or not. -/
theorem read_mapText (room : Nat) (spaces : ∀ c ∈ gap, isSpace c = true)
    (all : List.Forall₂ WritesEntry parts written) {tail : List Char}
    (behind : ∀ c ∈ tail, isSpace c = true) :
    Json.read (room + 1) (mapText gap parts ++ tail) = .ok (.map (gathered [] written)) := by
  have ended : skipSpace tail = [] := List.dropWhile_eq_nil_iff.mpr behind
  have opens : skipSpace (mapText gap parts ++ tail) = mapText gap parts ++ tail :=
    skipSpace_cons (by decide) _
  have enough : parts.length < 2 * (mapText gap parts ++ tail).length + 1 := by
    cases parts with
    | nil => simp
    | cons part rest =>
        have marks := length_le_flatMap
          (fun part => List.cons_ne_nil ',' (gap ++ entryText gap part)) rest
        simp only [mapText, List.map_cons, join_cons, List.flatMap_map, List.cons_append,
          List.length_append, List.length_cons] at marks ⊢
        omega
  rw [Json.read, opens, value_mapText spaces all enough room tail]
  simp [Bind.bind, Except.bind, ended]
  rfl

end Json

end AuditTrail
