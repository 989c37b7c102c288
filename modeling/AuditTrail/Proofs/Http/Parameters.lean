import AuditTrail.Http.Parameters
import AuditTrail.Proofs.Coercion
import AuditTrail.Proofs.Fault

/-!
# Acceptable parameters

The parameters of a search or a listing are read exactly when each of them is acceptable.  Reading
them fails, without a complaint to the caller, only for a stray date.
-/

namespace AuditTrail.Http

open Service

/-- Whether fields ask for the page, the size and the bounds on the time of a request. -/
structure Asks (freeForm : FreeForm) (zone : Zone) (defaultSize : Int) (field : String → Value)
    (request : PageRequest) : Prop where
  number : ∃ n, (field "from").toInt? = .ok n ∧ n.getD 1 = request.page
  first : 1 ≤ request.page
  size : ∃ n, (field "size").toInt? = .ok n ∧ n.getD defaultSize = request.size
  within : 1 ≤ request.size ∧ request.size ≤ 1000
  earliest : (field "fromDate").toMoment? freeForm zone = .ok request.range.first
  latest : (field "toDate").toMoment? freeForm zone = .ok request.range.last

/-- Whether a value asks for a sort key. -/
inductive AsksToSort : Value → Option String → Prop where
  | absent : AsksToSort .null none
  | blank : AsksToSort (.text "") none
  | key (name : String) (filled : name ≠ "") : AsksToSort (.text name) (some name)

/-- Whether the entries of a body ask for a search. -/
structure AsksToSearch (freeForm : FreeForm) (zone : Zone) (field : String → Value)
    (parameters : SearchParameters) : Prop extends
    Asks freeForm zone Settings.defaultPageSize field parameters.page where
  query : field "query" = .text parameters.query
  sort : AsksToSort (field "sort") parameters.page.sort
  direction : ∃ b, (field "sortDescending").toBool? = .ok b ∧
    b.getD true = parameters.page.descending

/-- Whether reading can fail, without a complaint, only for a cause. -/
def FailsFor {α : Type} (cause : Prop) (result : Except Refusal α) : Prop :=
  ∀ fault, result = .error (.fault fault) → cause

namespace FailsFor

variable {α β : Type} {cause : Prop}

theorem ok (value : α) : FailsFor cause (.ok value : Except Refusal α) := nofun

theorem mono {weaker : Prop} {result : Except Refusal α} (fails : FailsFor cause result)
    (weaken : cause → weaker) : FailsFor weaker result :=
  fun fault failed => weaken (fails fault failed)

theorem bind {first : Except Refusal α} {next : α → Except Refusal β}
    (begun : FailsFor cause first) (gone : ∀ value, FailsFor cause (next value)) :
    FailsFor cause (first >>= next) := by
  intro fault failed
  rcases error_of_bind failed with failed | ⟨value, _, failed⟩
  · exact begun fault failed
  · exact gone value fault failed

/-- A failure of the value becomes a complaint, so that only other failures need the cause. -/
theorem complain {complaint : Complaint} {result : Except Fault α}
    (refused : ∀ fault, result = .error fault → fault.kind ≠ .value → cause) :
    FailsFor cause (orComplain complaint result) := by
  intro fault failed
  cases result with
  | ok value => cases failed
  | error other =>
      rw [orComplain] at failed
      split at failed
      · cases failed
      · next kind =>
          obtain rfl := Refusal.fault.inj (Except.error.inj failed)
          exact refused other rfl kind

end FailsFor

theorem orComplain_eq_ok_iff {α : Type} {complaint : Complaint} {result : Except Fault α} {a : α} :
    orComplain complaint result = .ok a ↔ result = .ok a := by
  cases result with
  | ok value => simp [orComplain]
  | error fault =>
      rw [orComplain]
      split <;> simp

theorem readNumber_eq_ok_iff {name : String} {default m : Int} {value : Value} :
    readNumber name default value = .ok m ↔ ∃ n, value.toInt? = .ok n ∧ n.getD default = m := by
  constructor
  · intro read
    obtain ⟨n, accepted, rest⟩ := ok_of_bind read
    exact ⟨n, orComplain_eq_ok_iff.mp accepted, Except.ok.inj rest⟩
  · rintro ⟨n, accepted, rfl⟩
    exact bind_of_ok (orComplain_eq_ok_iff.mpr accepted) rfl

/-- A value that is no whole number is a failure of the value. -/
theorem kind_of_toInt? {value : Value} {fault : Fault} (failed : value.toInt? = .error fault) :
    fault.kind = .value := by
  cases value with
  | null => cases failed
  | int n => cases failed
  | text s =>
      rw [Value.toInt?] at failed
      split at failed
      · cases failed
      · generalize readInteger? _ = number at failed
        cases number <;> cases failed
        rfl
  | _ =>
      cases failed
      rfl

/-- A value that is no truth value is a failure of the value. -/
theorem kind_of_toBool? {value : Value} {fault : Fault} (failed : value.toBool? = .error fault) :
    fault.kind = .value := by
  rw [Value.toBool?.eq_def] at failed
  split at failed
  · cases failed
  · cases failed
  · cases failed
  · cases failed
  · dsimp only at failed
    split at failed
    · cases failed
    · split at failed <;> cases failed
      rfl

theorem failsFor_readNumber {cause : Prop} (name : String) (default : Int) (value : Value) :
    FailsFor cause (readNumber name default value) :=
  .bind (.complain fun _ failed other => absurd (kind_of_toInt? failed) other) fun _ => .ok _

theorem checkWindow_eq_ok_iff {page size : Int} :
    checkWindow page size = .ok () ↔ 1 ≤ page ∧ 1 ≤ size ∧ size ≤ 1000 := by
  rw [checkWindow, Fault.minPageSize, Fault.maxPageSize]
  split
  · simp; omega
  · split
    · simp; omega
    · simp; omega

theorem failsFor_checkWindow {cause : Prop} (page size : Int) :
    FailsFor cause (checkWindow page size) := by
  intro fault failed
  rw [checkWindow] at failed
  split at failed
  · cases failed
  · split at failed <;> cases failed

theorem readSort_eq_ok_iff {value : Value} {sort : Option String} :
    readSort value = .ok sort ↔ AsksToSort value sort := by
  constructor
  · intro read
    cases value with
    | null =>
        cases read
        exact .absent
    | text name =>
        by_cases blank : name = ""
        · subst blank
          cases read
          exact .blank
        · have filled : name.isEmpty = false := by simpa using blank
          rw [readSort, filled] at read
          cases read
          exact .key name blank
    | _ => cases read
  · rintro (_ | _ | ⟨name, filled⟩)
    · rfl
    · rfl
    · simp [readSort, filled]

theorem failsFor_readSort {cause : Prop} (value : Value) : FailsFor cause (readSort value) := by
  intro fault failed
  cases value <;> cases failed

/-- Reading a date fails for stray dates. -/
theorem failsFor_readDate {freeForm : FreeForm} {zone : Zone} (name : String) (value : Value) :
    FailsFor (value.IsStray freeForm zone) (readDate freeForm zone name value) :=
  .complain fun fault failed other => Value.isStray_iff.mpr ⟨fault, failed, other⟩

namespace SearchParameters

theorem readQuery_eq_ok_iff {value : Value} {query : String} :
    readQuery value = .ok query ↔ value = .text query := by
  cases value <;> simp [readQuery]

theorem failsFor_readQuery {cause : Prop} (value : Value) : FailsFor cause (readQuery value) := by
  intro fault failed
  cases value <;> cases failed

variable {freeForm : FreeForm} {zone : Zone}

theorem readEntries_eq_ok_iff {settings : Value} {parameters : SearchParameters} :
    readEntries freeForm zone settings = .ok parameters ↔
      AsksToSearch freeForm zone (Settings.entry settings) parameters := by
  constructor
  · intro read
    obtain ⟨query, queried, read⟩ := ok_of_bind read
    obtain ⟨page, paged, read⟩ := ok_of_bind read
    obtain ⟨size, sized, read⟩ := ok_of_bind read
    obtain ⟨_, checked, read⟩ := ok_of_bind read
    obtain ⟨sort, sorted, read⟩ := ok_of_bind read
    obtain ⟨direction, directed, read⟩ := ok_of_bind read
    obtain ⟨earliest, began, read⟩ := ok_of_bind read
    obtain ⟨latest, ended, read⟩ := ok_of_bind read
    cases read
    obtain ⟨first, within⟩ := checkWindow_eq_ok_iff.mp checked
    exact {
      number := readNumber_eq_ok_iff.mp paged
      first
      size := readNumber_eq_ok_iff.mp sized
      within
      earliest := orComplain_eq_ok_iff.mp began
      latest := orComplain_eq_ok_iff.mp ended
      query := readQuery_eq_ok_iff.mp queried
      sort := readSort_eq_ok_iff.mp sorted
      direction := ⟨direction, orComplain_eq_ok_iff.mp directed, rfl⟩ }
  · intro asks
    obtain ⟨direction, directed, descending⟩ := asks.direction
    refine bind_of_ok (readQuery_eq_ok_iff.mpr asks.query) <|
      bind_of_ok (readNumber_eq_ok_iff.mpr asks.number) <|
      bind_of_ok (readNumber_eq_ok_iff.mpr asks.size) <|
      bind_of_ok (checkWindow_eq_ok_iff.mpr ⟨asks.first, asks.within⟩) <|
      bind_of_ok (readSort_eq_ok_iff.mpr asks.sort) <|
      bind_of_ok (orComplain_eq_ok_iff.mpr directed) <|
      bind_of_ok (orComplain_eq_ok_iff.mpr asks.earliest) <|
      bind_of_ok (orComplain_eq_ok_iff.mpr asks.latest) ?_
    rw [descending]
    rfl

/-- Reading the parameters of a search fails only for a stray date. -/
theorem failsFor_readEntries (settings : Value) :
    FailsFor ((Settings.entry settings "fromDate").IsStray freeForm zone ∨
      (Settings.entry settings "toDate").IsStray freeForm zone)
      (readEntries freeForm zone settings) :=
  .bind (failsFor_readQuery _) fun _ => .bind (failsFor_readNumber _ _ _) fun _ =>
    .bind (failsFor_readNumber _ _ _) fun _ => .bind (failsFor_checkWindow _ _) fun _ =>
    .bind (failsFor_readSort _) fun _ =>
    .bind (.complain fun _ failed other => absurd (kind_of_toBool? failed) other) fun _ =>
    .bind ((failsFor_readDate _ _).mono .inl) fun _ =>
    .bind ((failsFor_readDate _ _).mono .inr) fun _ => .ok _

end SearchParameters

variable {freeForm : FreeForm} {zone : Zone} {defaultSize : Int} {target : Target}

theorem readListing_eq_ok_iff {request : PageRequest} :
    readListing freeForm zone defaultSize target = .ok request ↔
      Asks freeForm zone defaultSize (fieldValue target) request ∧ request.sort = none ∧
        request.descending = true := by
  constructor
  · intro read
    obtain ⟨page, paged, read⟩ := ok_of_bind read
    obtain ⟨size, sized, read⟩ := ok_of_bind read
    obtain ⟨_, checked, read⟩ := ok_of_bind read
    obtain ⟨earliest, began, read⟩ := ok_of_bind read
    obtain ⟨latest, ended, read⟩ := ok_of_bind read
    cases read
    obtain ⟨first, within⟩ := checkWindow_eq_ok_iff.mp checked
    refine ⟨?_, rfl, rfl⟩
    exact {
      number := readNumber_eq_ok_iff.mp paged
      first
      size := readNumber_eq_ok_iff.mp sized
      within
      earliest := orComplain_eq_ok_iff.mp began
      latest := orComplain_eq_ok_iff.mp ended }
  · obtain ⟨page, size, range, sort, descending⟩ := request
    rintro ⟨asks, rfl, rfl⟩
    exact bind_of_ok (readNumber_eq_ok_iff.mpr asks.number) <|
      bind_of_ok (readNumber_eq_ok_iff.mpr asks.size) <|
      bind_of_ok (checkWindow_eq_ok_iff.mpr ⟨asks.first, asks.within⟩) <|
      bind_of_ok (orComplain_eq_ok_iff.mpr asks.earliest) <|
      bind_of_ok (orComplain_eq_ok_iff.mpr asks.latest) rfl

/-- Reading the parameters of a listing fails only for a stray date. -/
theorem failsFor_readListing (defaultSize : Int) (target : Target) :
    FailsFor ((fieldValue target "fromDate").IsStray freeForm zone ∨
      (fieldValue target "toDate").IsStray freeForm zone)
      (readListing freeForm zone defaultSize target) :=
  .bind (failsFor_readNumber _ _ _) fun _ => .bind (failsFor_readNumber _ _ _) fun _ =>
    .bind (failsFor_checkWindow _ _) fun _ =>
    .bind ((failsFor_readDate _ _).mono .inl) fun _ =>
    .bind ((failsFor_readDate _ _).mono .inr) fun _ => .ok _

end AuditTrail.Http
