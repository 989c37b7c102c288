import AuditTrail.Column
import AuditTrail.Proofs.Text.Case
import AuditTrail.Text.Blank
import AuditTrail.Text.Word

/-!
# The names of columns

A name stands for a column exactly when it differs from the column's own name in the case of ASCII
letters alone.
-/

namespace AuditTrail.Column

open Text

theorem ofExactName?_eq_some_iff {text : List Char} {column : Column} :
    ofExactName? text = some column ↔ column.name.toList = text := by
  constructor
  · exact name_of_ofExactName?
  · rintro rfl
    cases column <;> rfl

/-- The characters of the names of columns. -/
def nameChars : List Char :=
  ['_', 'a', 'c', 'd', 'e', 'i', 'l', 'm', 'n', 'o', 'p', 'r', 's', 't', 'u', 'y']

theorem mem_nameChars {column : Column} {c : Char} (inside : c ∈ column.name.toList) :
    c ∈ nameChars := by
  have names : all.all fun column => column.name.toList.all nameChars.contains := by decide
  have own := List.all_eq_true.mp names column (mem_all column)
  simpa using List.all_eq_true.mp own c inside

/-- The names of columns are plain ASCII without `k`. -/
theorem plain_of_mem_name {column : Column} {c : Char} (inside : c ∈ column.name.toList) :
    0 < c.toNat ∧ c.toNat < 128 ∧ c ≠ 'k' := by
  have names : nameChars.all fun c => 0 < c.toNat ∧ c.toNat < 128 ∧ c ≠ 'k' := by
    decide +kernel
  exact of_decide_eq_true (List.all_eq_true.mp names c (mem_nameChars inside))

theorem ascii_of_variant {name : List Char} {column : Column}
    (variant : name.map Char.toLower = column.name.toList) {c : Char} (member : c ∈ name) :
    c.toNat < 128 := by
  have lowered : c.toLower ∈ column.name.toList := variant ▸ List.mem_map_of_mem member
  exact lt_of_toLower_lt (plain_of_mem_name lowered).2.1

/-- The names that stand for a column differ from its own in the case of ASCII letters alone. -/
theorem lower_eq_name_iff {name : List Char} {column : Column} :
    lower name = column.name.toList ↔ name.map Char.toLower = column.name.toList := by
  constructor
  · intro own
    rw [← lower_eq_map_of_plain, own]
    intro d inside
    rw [own] at inside
    exact plain_of_mem_name inside
  · intro variant
    rw [lower_of_forall_lt fun c => ascii_of_variant variant, variant]

theorem ofName?_eq_some_iff {name : List Char} {column : Column} :
    ofName? name = some column ↔ name.map Char.toLower = column.name.toList := by
  rw [ofName?, ofExactName?_eq_some_iff, eq_comm, lower_eq_name_iff]

theorem ne_nil_of_variant {name : List Char} {column : Column}
    (variant : name.map Char.toLower = column.name.toList) : name ≠ [] := by
  rintro rfl
  cases column <;> exact absurd variant (by decide)

/-- A name in any letter case is made of word characters other than colons and quotation marks. -/
theorem word_of_variant {name : List Char} {column : Column}
    (variant : name.map Char.toLower = column.name.toList) {c : Char} (member : c ∈ name) :
    isWord c = true ∧ isQuote c = false ∧ isBlank c = false ∧ c ≠ ':' := by
  have table : ∀ point < 128, (Char.ofNat point).toLower ∈ nameChars →
      isWord (Char.ofNat point) = true ∧ isQuote (Char.ofNat point) = false ∧
        isBlank (Char.ofNat point) = false ∧ Char.ofNat point ≠ ':' := by decide +kernel
  have lowered : c.toLower ∈ column.name.toList := variant ▸ List.mem_map_of_mem member
  exact forall_ascii (p := fun c => c.toLower ∈ nameChars →
    isWord c = true ∧ isQuote c = false ∧ isBlank c = false ∧ c ≠ ':') table c
      (ascii_of_variant variant member) (mem_nameChars lowered)

end AuditTrail.Column
