import AuditTrail.Settings

/-!
# Settings of an application

Whatever the settings of the service hold, those of the application have a text search
configuration that is an identifier, a page size that is in range, and a time zone.  Only an
infinite page size leaves an application without settings.
-/

namespace AuditTrail

open Text

namespace Value

theorem lookup_insert (name other : String) (value : Value) (entries : List (String × Value)) :
    (insert name value entries).lookup other =
      if other = name then some value else entries.lookup other := by
  induction entries with
  | nil => by_cases same : other = name <;> simp [insert, same]
  | cons first rest ih =>
      obtain ⟨there, old⟩ := first
      rw [insert]
      by_cases replaced : there = name
      · subst replaced
        by_cases same : other = there
        · simp [same]
        · simp [List.lookup_cons, beq_false_of_ne same, same]
      · by_cases same : other = there
        · subst same
          simp [replaced]
        · simp [List.lookup_cons, replaced, beq_false_of_ne same, ih]

/-- Whether a value is an infinite number. -/
def isInfinite : Value → Bool
  | float (.infinite _) => true
  | decimal (.infinite _) => true
  | _ => false

theorem readable_ne_tooLarge {α : Type} (result : Option α) :
    readable result ≠ .error .tooLarge := by
  cases result <;> simp [readable]

/-- Only infinite numbers are too large for whole numbers. -/
theorem toInt_eq_tooLarge_iff {value : Value} :
    value.toInt = .error .tooLarge ↔ value.isInfinite = true := by
  cases value with
  | float x => cases x <;> simp [toInt, isInfinite, readable_ne_tooLarge]
  | decimal d => cases d <;> simp [toInt, isInfinite]
  | text s => simp [toInt, isInfinite, readable_ne_tooLarge]
  | bytes changeable data => simp [toInt, isInfinite, readable_ne_tooLarge]
  | _ => simp [toInt, isInfinite]

end Value

namespace Settings

/-- What the service relies on in the settings of an application: the time zone is one that the
database knows. -/
structure IsComplete (regions : Regions) (settings : List (String × Value)) : Prop where
  search : ∃ name : String,
    settings.lookup "TEXT_SEARCH_CONFIG" = some (.text name) ∧ isIdentifier name.toList = true
  size : ∃ n : Nat, settings.lookup "DEFAULT_PAGE_SIZE" = some (.int n) ∧ 1 ≤ n ∧ n ≤ 1000
  zone : ∃ name region, settings.lookup "TZ" = some (.zone (.region region)) ∧
    regions.find? name = some region

theorem isIdentifier_of_configuration? {value : Value} {name : String}
    (configured : configuration? value = some name) : isIdentifier name.toList = true := by
  cases value with
  | text s =>
      rw [configuration?] at configured
      split at configured
      · next identifies =>
          rw [← Option.some.inj configured, String.toList_ofList]
          exact identifies
      · cases configured
  | _ => cases configured

theorem isIdentifier_searchConfiguration (settings : Value) :
    isIdentifier (searchConfiguration settings).toList = true := by
  rw [searchConfiguration]
  cases configured : configuration? (entry settings "text_search_config") with
  | none => decide +kernel
  | some name => exact isIdentifier_of_configuration? configured

theorem clampPageSize_range (n : Int) : 1 ≤ clampPageSize n ∧ clampPageSize n ≤ 1000 := by
  rw [clampPageSize, Fault.minPageSize, Fault.maxPageSize]
  omega

/-- There is a page size in range, unless an infinite one is set. -/
theorem pageSize_cases (settings : Value) :
    ((entry settings "default_page_size").isInfinite = true ∧
      pageSize settings = .error (.unconvertible .tooLarge)) ∨
    ((entry settings "default_page_size").isInfinite = false ∧
      ∃ n, pageSize settings = .ok n ∧ 1 ≤ n ∧ n ≤ 1000) := by
  rw [pageSize, ← Bool.not_eq_true, ← Value.toInt_eq_tooLarge_iff]
  cases (entry settings "default_page_size").toInt with
  | ok n => exact .inr ⟨by simp, _, rfl, clampPageSize_range n⟩
  | error cause =>
      cases cause with
      | tooLarge => exact .inl ⟨rfl, rfl⟩
      | invalid => exact .inr ⟨by simp, _, rfl, by decide⟩
      | unsupported => exact .inr ⟨by simp, _, rfl, by decide⟩

/-- Universal time stands in for a name that the database does not know; it knows that one. -/
theorem exists_find?_region (regions : Regions) (settings : Value) :
    ∃ name, regions.find? name = some (region regions settings) := by
  rw [region]
  cases found : regions.find? (zoneName settings) with
  | none => exact ⟨Region.utc.name, regions.find?_utc⟩
  | some known => exact ⟨zoneName settings, found⟩

/-- There are complete settings, unless an infinite page size is set. -/
theorem application_cases (regions : Regions) (settings : Value) :
    ((entry settings "default_page_size").isInfinite = true ∧
      application regions settings = .error (.unconvertible .tooLarge)) ∨
    ((entry settings "default_page_size").isInfinite = false ∧
      ∃ made, application regions settings = .ok made ∧ IsComplete regions made) := by
  rcases pageSize_cases settings with ⟨infinite, failed⟩ | ⟨finite, n, read, range⟩
  · refine .inl ⟨infinite, ?_⟩
    unfold application
    rw [failed]
    rfl
  · refine .inr ⟨finite, ?_⟩
    unfold application
    rw [read]
    refine ⟨_, rfl, ?_⟩
    constructor
    · exact ⟨searchConfiguration settings, by simp [Value.lookup_insert],
        isIdentifier_searchConfiguration settings⟩
    · exact ⟨n, by simp [Value.lookup_insert], range⟩
    · obtain ⟨name, known⟩ := exists_find?_region regions settings
      exact ⟨name, region regions settings, by simp [Value.lookup_insert], known⟩

end Settings

end AuditTrail
