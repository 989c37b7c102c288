import AuditTrail.Text.Case
import Mathlib.Data.List.Basic

/-!
# Letter case and ASCII

The other-case form of an ASCII character is the usual one.  Outside ASCII there is exactly one
character whose lower-case form is an ASCII letter, the Kelvin sign, so a text whose lower-case
form is plain ASCII without `k` is itself plain ASCII.
-/

namespace AuditTrail.Text

theorem mapInRuns_eq_self {runs : List CaseRun} {point : Nat}
    (apart : ∀ run ∈ runs, run.last < point ∨ point < run.first) :
    mapInRuns runs point = point := by
  induction runs with
  | nil => rfl
  | cons run rest ih =>
      have here := apart run List.mem_cons_self
      rw [mapInRuns, ih fun other member => apart other (List.mem_cons_of_mem run member)]
      split
      · rfl
      · rw [if_neg (by omega)]

/-- A character outside the tables is its own other-case form. -/
theorem mapCase_eq_self {runs : List CaseRun} {expansions : List (Nat × List Nat)} {c : Char}
    (apart : ∀ run ∈ runs, run.last < c.toNat ∨ c.toNat < run.first)
    (single : ∀ entry ∈ expansions, c.toNat ≠ entry.1) : mapCase runs expansions c = [c] := by
  have unlisted : expansions.lookup c.toNat = none := by
    rw [List.lookup_eq_none_iff]
    intro entry listed
    rw [bne_iff_ne]
    exact single entry listed
  rw [mapCase, unlisted]
  dsimp only
  rw [mapInRuns_eq_self apart, Char.ofNat_toNat]

/-- What holds of the first 128 code points holds of every ASCII character. -/
theorem forall_ascii {p : Char → Prop} (table : ∀ point < 128, p (Char.ofNat point)) (c : Char)
    (ascii : c.toNat < 128) : p c := by
  have entry := table c.toNat ascii
  rwa [Char.ofNat_toNat] at entry

theorem lowerChar_of_lt {c : Char} (ascii : c.toNat < 128) : lowerChar c = [c.toLower] :=
  forall_ascii (p := fun c => lowerChar c = [c.toLower]) (by decide +kernel) c ascii

theorem lower_of_forall_lt {text : List Char} (ascii : ∀ c ∈ text, c.toNat < 128) :
    lower text = text.map Char.toLower := by
  rw [lower, List.map_eq_flatMap]
  exact List.flatMap_congr fun c member => lowerChar_of_lt (ascii c member)

theorem upperChar_of_lt {c : Char} (ascii : c.toNat < 128) : upperChar c = [c.toUpper] :=
  forall_ascii (p := fun c => upperChar c = [c.toUpper]) (by decide +kernel) c ascii

theorem upper_of_forall_lt {text : List Char} (ascii : ∀ c ∈ text, c.toNat < 128) :
    upper text = text.map Char.toUpper := by
  rw [upper, List.map_eq_flatMap]
  exact List.flatMap_congr fun c member => upperChar_of_lt (ascii c member)

/-- Only ASCII characters have a lower-case form in ASCII by the usual rule. -/
theorem lt_of_toLower_lt {c : Char} (ascii : c.toLower.toNat < 128) : c.toNat < 128 := by
  by_contra outside
  have same : c.toLower = c := dif_neg fun upper => by
    have top : c.toNat ≤ 90 := UInt32.le_iff_toNat_le.mp upper.2
    omega
  exact outside (same ▸ ascii)

theorem lt_of_toUpper_lt {c : Char} (ascii : c.toUpper.toNat < 128) : c.toNat < 128 := by
  by_contra outside
  have same : c.toUpper = c := dif_neg fun lower => by
    have top : c.toNat ≤ 122 := UInt32.le_iff_toNat_le.mp lower.2
    omega
  exact outside (same ▸ ascii)

/-- The code point of the Kelvin sign. -/
def kelvinSign : Nat := 0x212A

/-- Whether a run maps nothing outside ASCII into ASCII, the Kelvin sign apart. -/
def CaseRun.StaysOutside (run : CaseRun) : Prop :=
  run.last < 128 ∨ 128 ≤ run.first + run.offset ∨ run.first = kelvinSign ∧ run.last = kelvinSign

instance (run : CaseRun) : Decidable run.StaysOutside := by
  unfold CaseRun.StaysOutside
  infer_instance

theorem le_mapInRuns {runs : List CaseRun} {point : Nat} (outside : 128 ≤ point)
    (stay : ∀ run ∈ runs, run.StaysOutside) :
    128 ≤ mapInRuns runs point ∨ point = kelvinSign := by
  induction runs with
  | nil => exact .inl outside
  | cons run rest ih =>
      have later := ih fun other member => stay other (List.mem_cons_of_mem run member)
      rw [mapInRuns]
      split
      · exact .inl outside
      · split
        · next inside =>
            rcases stay run List.mem_cons_self with low | far | kelvin
            · omega
            · left
              omega
            · right
              omega
        · exact later

/-- The lower-case form is one character, except for the one expansion. -/
theorem lowerChar_cases (c : Char) :
    lowerChar c = [Char.ofNat 105, Char.ofNat 775] ∨ ∃ d, lowerChar c = [d] := by
  rw [lowerChar, mapCase]
  split
  · next points found =>
      simp only [lowerExpansions, List.lookup_cons, List.lookup_nil] at found
      split at found
      · obtain rfl := Option.some.inj found
        exact .inl rfl
      · cases found
  · exact .inr ⟨_, rfl⟩

/-- A character whose lower-case form is made of ASCII characters other than `k` and the null
character is an ASCII character. -/
theorem lt_of_lowerChar {c : Char}
    (plain : ∀ d ∈ lowerChar c, 0 < d.toNat ∧ d.toNat < 128 ∧ d ≠ 'k') : c.toNat < 128 := by
  refine Decidable.byContradiction fun outside => ?_
  have runs : ∀ run ∈ lowerRuns, run.StaysOutside := by decide +kernel
  have mapped := le_mapInRuns (Nat.not_lt.mp outside) runs
  rw [lowerChar, mapCase] at plain
  split at plain
  · next points found =>
      -- The one expansion ends with a combining mark.
      have dotted : c.toNat = 304 ∧ points = [105, 775] := by
        simp only [lowerExpansions, List.lookup_cons, List.lookup_nil] at found
        split at found
        · next same => exact ⟨by simpa using same, (Option.some.inj found).symm⟩
        · cases found
      have mark := (plain (Char.ofNat 775) (by simp [dotted.2])).2.1
      exact absurd mark (by decide)
  · obtain ⟨positive, ascii, other⟩ := plain _ (List.mem_singleton_self _)
    rcases mapped with far | kelvin
    · by_cases valid : (mapInRuns lowerRuns c.toNat).isValidChar
      · have value : (Char.ofNat (mapInRuns lowerRuns c.toNat)).toNat =
            mapInRuns lowerRuns c.toNat := by
          rw [Char.ofNat, dif_pos valid]
          rfl
        omega
      · have null : (Char.ofNat (mapInRuns lowerRuns c.toNat)).toNat = 0 := by
          rw [Char.ofNat, dif_neg valid]
          rfl
        omega
    · rw [kelvin] at other
      exact other (by decide +kernel)

/-- A text whose lower-case form is plain ASCII without `k` is put in lower case by the usual
rule. -/
theorem lower_eq_map_of_plain {text : List Char}
    (plain : ∀ d ∈ lower text, 0 < d.toNat ∧ d.toNat < 128 ∧ d ≠ 'k') :
    lower text = text.map Char.toLower := by
  apply lower_of_forall_lt
  intro c member
  apply lt_of_lowerChar
  intro d inside
  exact plain d (List.mem_flatMap.mpr ⟨c, member, inside⟩)

end AuditTrail.Text
