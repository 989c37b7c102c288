import AuditTrail.Proofs.Http.Application
import AuditTrail.Proofs.Http.Parameters
import AuditTrail.Proofs.Service.Settings

/-!
# Handling searches and listings

A search or a listing reads its parameters first.  Where it cannot, it is refused before a session
is opened and before anything is executed.
-/

namespace AuditTrail.Service

/-- The zone of dates that name none. -/
def View.dateZone (view : View) : Zone :=
  match view.setting "TZ" with
  | .null => .region (Settings.region view.regions (view.fileSettings .dates))
  | setting => Zone.ofSetting view.regions setting

/-- The page size of listings that name none. -/
def View.listingSize (view : View) : Except Fault Int :=
  match view.setting "DEFAULT_PAGE_SIZE" with
  | .int n =>
    if n = 0 then Int.ofNat <$> Settings.pageSize (view.fileSettings .listing) else .ok n
  | _ => Int.ofNat <$> Settings.pageSize (view.fileSettings .listing)

/-- Whether nothing is executed and no session is opened between two states. -/
structure State.IsUntouched (before after : State) : Prop where
  statements : after.journal.statements = before.journal.statements
  sessions : after.sessionCount = before.sessionCount
  opened : ∀ session engine, Event.opened session engine ∈ after.journal.events →
    Event.opened session engine ∈ before.journal.events

/-- A request that only writes log entries. -/
theorem State.isUntouched_released (state : State) (settings : List (String × Value))
    (entries : List LogEntry) :
    state.IsUntouched ((state.entered settings).logged entries).released where
  statements := by simp
  sessions := by simp
  opened _ _ opened := by simpa using mem_events_of_released _ opened

end AuditTrail.Service

namespace AuditTrail.Http

open Text Service Action

/-- What a refusal comes to. -/
def Refusal.outcome : Refusal → Except Fault Outcome
  | .complaint why => .ok (.rejected (.unacceptable why))
  | .fault cause => .error cause

/-- The parameters of a search. -/
def searchParameters (freeForm : FreeForm) (zone : Zone) (request : Request) :
    Except Refusal SearchParameters :=
  match request.json? with
  | .ok body => SearchParameters.read freeForm zone body
  | .error trouble => .error (.fault (.json trouble))

/-- The parameters of a listing. -/
def listingParameters (freeForm : FreeForm) (zone : Zone) (size : Except Fault Int)
    (request : Request) : Except Refusal PageRequest :=
  match size with
  | .ok size => readListing freeForm zone size request.target
  | .error fault => .error (.fault fault)

theorem dateZone_runFrom (state : State) :
    ∃ entries, dateZone.runFrom state = (.ok state.view.dateZone, state.logged entries) := by
  rw [dateZone, runFrom_bind_of_ok (applicationSetting_runFrom _ state), View.dateZone]
  obtain ⟨loads, loaded⟩ := loadSettings_runFrom .dates state
  obtain ⟨entries, found⟩ :=
    region_runFrom (show (settingsOr .dates .null).runFrom state = _ from loaded)
  cases state.view.setting "TZ" with
  | null => exact ⟨entries, (runFrom_bind_of_ok found).trans rfl⟩
  | _ => exact ⟨state.journal.entries, rfl⟩

theorem listingSize_runFrom (state : State) :
    ∃ entries, listingSize.runFrom state = (state.view.listingSize, state.logged entries) := by
  rw [listingSize, runFrom_bind_of_ok (applicationSetting_runFrom _ state), View.listingSize]
  obtain ⟨entries, read⟩ := pageSize_runFrom .listing state
  have fallback : (do pure ((← pageSize .listing .null : Nat) : Int) : Action Int).runFrom state =
      (Int.ofNat <$> Settings.pageSize (state.view.fileSettings .listing),
        state.logged entries) := by
    rw [runFrom_bind, read]
    cases Settings.pageSize (state.view.fileSettings .listing) <;> rfl
  cases state.view.setting "DEFAULT_PAGE_SIZE" with
  | int n =>
      dsimp only
      split
      · exact ⟨entries, fallback⟩
      · exact ⟨state.journal.entries, rfl⟩
  | _ => exact ⟨entries, fallback⟩

theorem handle_search_runFrom (clock : Clock) (request : Request) (state : State) :
    ∃ entries, (handle clock request .search).runFrom state =
      (withParameters (searchParameters clock.freeForm state.view.dateZone request)
        (runSearch clock)).runFrom (state.logged entries) := by
  obtain ⟨entries, zone⟩ := dateZone_runFrom state
  rw [handle, handleSearch, runFrom_bind, runFrom_ofExcept, searchParameters]
  cases request.json? with
  | error trouble => exact ⟨state.journal.entries, rfl⟩
  | ok body => exact ⟨entries, runFrom_bind_of_ok zone⟩

theorem handle_list_runFrom (clock : Clock) (request : Request) (state : State) :
    ∃ entries, (handle clock request .list).runFrom state =
      (withParameters (listingParameters clock.freeForm state.view.dateZone state.view.listingSize
        request) (runListing clock)).runFrom (state.logged entries) := by
  obtain ⟨entries, sized⟩ := listingSize_runFrom state
  rw [handle, handleList, runFrom_bind, sized]
  cases state.view.listingSize with
  | error fault => exact ⟨entries, rfl⟩
  | ok size =>
      obtain ⟨more, zone⟩ := dateZone_runFrom (state.logged entries)
      exact ⟨more, runFrom_bind_of_ok zone⟩

/-- What a search or a listing comes to with a page. -/
def pageOutcome (clock : Clock) (request : PageRequest) (page : Page) : Except Fault Outcome := do
  let took ← Search.elapsedMilliseconds clock.started clock.finished
  let value ← Search.Response.value ⟨page.hits, page.total, request.page, request.size, took⟩
  pure (.answered 200 value)

/-- What a search or a listing comes to; without a page it has a message. -/
def foundOutcome (clock : Clock) (request : PageRequest) (message : String) :
    Except Fault Page → Except Fault Outcome
  | .ok page => pageOutcome clock request page
  | .error _ => .ok (.failed 500 message)

theorem answered_of_pageOutcome {clock : Clock} {request : PageRequest} {page : Page}
    {outcome : Outcome} (come : pageOutcome clock request page = .ok outcome) :
    ∃ value, outcome = .answered 200 value := by
  obtain ⟨took, _, come⟩ := ok_of_bind come
  obtain ⟨value, _, come⟩ := ok_of_bind come
  cases come
  exact ⟨value, rfl⟩

theorem answerPage_runFrom (request : PageRequest) (page : Page) (took : Int) (state : State) :
    (answerPage request page took).runFrom state =
      (Outcome.answered 200 <$> Search.Response.value ⟨page.hits, page.total, request.page,
        request.size, took⟩, state) := by
  rw [answerPage, runFrom_bind, runFrom_ofExcept]
  cases Search.Response.value ⟨page.hits, page.total, request.page, request.size, took⟩ <;> rfl

theorem runListing_runFrom (clock : Clock) (request : PageRequest) {state later : State}
    {outcome : Except Fault Page} (lists : (list false request).runFrom state = (outcome, later)) :
    ∃ entries, (runListing clock request).runFrom state =
      (foundOutcome clock request "An error occurred while retrieving audit logs" outcome,
        later.logged entries) := by
  rw [runListing, runFrom_bind_of_ok (runFrom_attempt _ state), lists]
  cases outcome with
  | error fault => exact ⟨_, rfl⟩
  | ok page =>
      refine ⟨later.journal.entries, ?_⟩
      dsimp only
      rw [runFrom_bind, runFrom_ofExcept, foundOutcome, pageOutcome]
      cases Search.elapsedMilliseconds clock.started clock.finished with
      | error fault => rfl
      | ok took => exact answerPage_runFrom request page took later

theorem runSearch_runFrom (clock : Clock) (parameters : SearchParameters) {state later : State}
    {outcome : Except Fault Page}
    (searches : (search false (some parameters.query) parameters.page).runFrom state =
      (outcome, later)) :
    ∃ entries, (runSearch clock parameters).runFrom state =
      (foundOutcome clock parameters.page "An error occurred while searching" outcome,
        later.logged entries) := by
  rw [runSearch, runFrom_bind_of_ok (runFrom_attempt _ state), searches]
  cases outcome with
  | error fault => exact ⟨_, rfl⟩
  | ok page =>
      dsimp only
      rw [runFrom_bind, runFrom_ofExcept, foundOutcome, pageOutcome]
      cases Search.elapsedMilliseconds clock.started clock.finished with
      | error fault => exact ⟨later.journal.entries, rfl⟩
      | ok took =>
          dsimp only
          rw [runFrom_bind_of_ok (log_runFrom _ _ _ later)]
          exact ⟨_, answerPage_runFrom parameters.page page took _⟩

/-- A request with unacceptable parameters is answered at once. -/
theorem Application.serve_refused {α : Type} {application : Application} {clock : Clock}
    {request : Request} {endpoint : Endpoint} {parameters : Except Refusal α}
    {work : α → Action Outcome} {refusal : Refusal} {state : State} {entries : List LogEntry}
    (reaches : request.Reaches endpoint)
    (handles : (handle clock request endpoint).runFrom (state.entered application.settings) =
      (withParameters parameters work).runFrom
        ((state.entered application.settings).logged entries))
    (refused : parameters = .error refusal) :
    ∃ later, (serve application clock request).runFrom state =
      (.ok (application.reply request refusal.outcome), later) ∧ state.IsUntouched later := by
  have ends : (withParameters parameters work).runFrom
      ((state.entered application.settings).logged entries) =
      (refusal.outcome, (state.entered application.settings).logged entries) := by
    rw [refused]
    cases refusal <;> rfl
  obtain ⟨more, serves⟩ := serve_runFrom application reaches (handles.trans ends)
  exact ⟨_, serves, state.isUntouched_released _ more⟩

end AuditTrail.Http
