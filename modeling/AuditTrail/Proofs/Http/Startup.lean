import AuditTrail.Calendar.FreeForm.OnDay
import AuditTrail.Proofs.Http.Handler

/-!
# Starting up

An application is made from whatever the file of the settings holds, an infinite page size and a
text search configuration that is nested too deeply to be reported apart, and a listing that names
no page size gets one that is in range.
-/

namespace AuditTrail.Http

open Text Service Action

theorem complaint_of_orComplain {α : Type} {complaint other : Complaint} {result : Except Fault α}
    (refused : orComplain complaint result = .error (.complaint other)) : other = complaint := by
  cases result with
  | ok value => cases refused
  | error fault =>
      rw [orComplain] at refused
      split at refused <;> cases refused
      rfl

theorem complaint_of_readNumber {name : String} {default : Int} {value : Value}
    {complaint : Complaint}
    (refused : readNumber name default value = .error (.complaint complaint)) :
    complaint = .notInteger name := by
  rcases error_of_bind refused with refused | ⟨_, _, refused⟩
  · exact complaint_of_orComplain refused
  · cases refused

theorem complaint_of_checkWindow {page size : Int} {complaint : Complaint}
    (within : 1 ≤ size ∧ size ≤ 1000)
    (refused : checkWindow page size = .error (.complaint complaint)) :
    complaint = .pageTooSmall := by
  by_cases first : 1 ≤ page
  · rw [checkWindow_eq_ok_iff.mpr ⟨first, within⟩] at refused
    cases refused
  · rw [checkWindow, if_pos (Int.not_le.mp first)] at refused
    cases refused
    rfl

/-- Whether a complaint is about the size of a page. -/
def Complaint.IsAboutSize (complaint : Complaint) : Prop :=
  complaint = .sizeOutOfRange ∨ complaint = .notInteger "size"

/-- A listing that names no page size is not refused for it. -/
theorem not_isAboutSize_of_readListing {freeForm : FreeForm} {zone : Zone} {defaultSize : Int}
    {target : Target} {complaint : Complaint} (within : 1 ≤ defaultSize ∧ defaultSize ≤ 1000)
    (unnamed : target.field? "size" = none)
    (refused : readListing freeForm zone defaultSize target = .error (.complaint complaint)) :
    ¬ complaint.IsAboutSize := by
  have absent : fieldValue target "size" = .null := by
    rw [fieldValue, unnamed]
  rcases error_of_bind refused with refused | ⟨page, _, refused⟩
  · simp [complaint_of_readNumber refused, Complaint.IsAboutSize]
  rcases error_of_bind refused with refused | ⟨size, sized, refused⟩
  · rw [absent] at refused
    cases refused
  obtain rfl : defaultSize = size := by
    rw [absent] at sized
    exact Except.ok.inj sized
  rcases error_of_bind refused with refused | ⟨_, _, refused⟩
  · simp [complaint_of_checkWindow within refused, Complaint.IsAboutSize]
  rcases error_of_bind refused with refused | ⟨_, _, refused⟩
  · simp [complaint_of_orComplain refused, Complaint.IsAboutSize]
  rcases error_of_bind refused with refused | ⟨_, _, refused⟩
  · simp [complaint_of_orComplain refused, Complaint.IsAboutSize]
  · cases refused

/-- A listing whose parameters are acceptable is not refused. -/
theorem runListing_ne_rejected (clock : Clock) (request : PageRequest) (rejection : Rejection)
    (state : State) : ((runListing clock request).runFrom state).1 ≠ .ok (.rejected rejection) := by
  cases lists : (list false request).runFrom state with
  | mk outcome later =>
      obtain ⟨entries, runs⟩ := runListing_runFrom clock request lists
      rw [runs]
      cases outcome with
      | error fault => simp [foundOutcome, Outcome.failed]
      | ok page =>
          intro refused
          obtain ⟨value, other⟩ := answered_of_pageOutcome refused
          cases other

namespace Application

theorem create_runFrom (state : State) :
    ∃ entries, create.runFrom state =
      ((⟨·, none⟩) <$> state.view.application, state.logged entries) := by
  obtain ⟨entries, made⟩ := applicationSettings_runFrom state
  refine ⟨entries, ?_⟩
  rw [create, runFrom_bind, made]
  cases state.view.application <;> rfl

/-- An application that could be made has complete settings, and nothing fails behind its
responses. -/
theorem isComplete_of_create {application : Application} {state later : State}
    (created : create.runFrom state = (.ok application, later)) :
    application.afterwards = none ∧
      Settings.IsComplete state.view.regions application.settings := by
  obtain ⟨entries, runs⟩ := create_runFrom state
  rw [runs] at created
  by_cases overwhelms : state.view.Overwhelms .startup (state.view.fileSettings .startup)
  · rw [View.application_of_overwhelms overwhelms] at created
    cases created
  · rw [View.application_of_not_overwhelms overwhelms] at created
    rcases Settings.application_cases state.view.regions (state.view.fileSettings .startup) with
      ⟨_, failed⟩ | ⟨_, made, read, complete⟩
    · rw [failed] at created
      cases created
    · rw [read] at created
      cases created
      exact ⟨rfl, complete⟩

/-- The page size of an application with complete settings. -/
theorem listingSize_of_isComplete {application : Application} {size : Int} (state : State)
    (sized : application.settings.lookup "DEFAULT_PAGE_SIZE" = some (.int size))
    (filled : 1 ≤ size) :
    (state.entered application.settings).view.listingSize = .ok size := by
  have setting : (state.entered application.settings).view.setting "DEFAULT_PAGE_SIZE" =
      .int size := by
    rw [View.setting]
    exact congrArg (Option.getD · .null) sized
  rw [View.listingSize, setting]
  exact if_neg (by omega)

/-- A listing that names no page size is not refused for the size of its page. -/
theorem not_rejected_of_isComplete {application : Application} (clock : Clock) {request : Request}
    (state : State) {regions : Regions}
    (complete : Settings.IsComplete regions application.settings)
    (unnamed : request.target.field? "size" = none) {complaint : Complaint}
    (about : complaint.IsAboutSize) :
    ((handle clock request .list).runFrom (state.entered application.settings)).1 ≠
      .ok (.rejected (.unacceptable complaint)) := by
  obtain ⟨size, sized, least, greatest⟩ := complete.size
  obtain ⟨entries, handles⟩ :=
    handle_list_runFrom clock request (state.entered application.settings)
  have known := listingSize_of_isComplete state sized (by omega)
  rw [handles, known]
  cases read : listingParameters clock.freeForm (state.entered application.settings).view.dateZone
      (.ok size) request with
  | ok parameters => exact runListing_ne_rejected clock parameters _ _
  | error refusal =>
      cases refusal with
      | fault cause => simp [withParameters]
      | complaint other =>
          have elsewhere := not_isAboutSize_of_readListing ⟨by omega, by omega⟩ unnamed read
          intro same
          obtain rfl : other = complaint := by simpa [withParameters] using same
          exact elsewhere about

/-- Whatever bytes the file of the settings holds, an application is made with an identifier for
the text search, a page size in range and a time zone that is known, and its listings are not
refused for a page size that they do not name.  No application is made only where the file sets a
text search configuration that can neither be used nor shown, or an infinite page size. -/
theorem create_unless_outsized (state : State) :
    let settings := state.view.fileSettings .startup
    let infinite := (Settings.entry settings "default_page_size").isInfinite
    (state.view.Overwhelms .startup settings → ∃ later,
      create.runFrom state = (.error .tooNested, later)) ∧
    (¬ state.view.Overwhelms .startup settings → infinite = true → ∃ later,
      create.runFrom state = (.error (.unconvertible .tooLarge), later)) ∧
    (¬ state.view.Overwhelms .startup settings → infinite = false → ∃ application later,
      create.runFrom state = (.ok application, later) ∧
      Settings.IsComplete state.view.regions application.settings ∧
      ∀ clock request serving, request.IsListing → request.target.field? "size" = none →
        let outcome :=
          ((handle clock request .list).runFrom (serving.entered application.settings)).1
        ((serve application clock request).runFrom serving).1 =
            .ok (application.reply request outcome) ∧
          ∀ complaint : Complaint, complaint.IsAboutSize →
            outcome ≠ .ok (.rejected (.unacceptable complaint))) := by
  obtain ⟨entries, created⟩ := create_runFrom state
  intro settings infinite
  rw [created]
  refine ⟨fun overwhelms => ?_, fun shown unbounded => ?_, fun shown bounded => ?_⟩
  · rw [View.application_of_overwhelms overwhelms]
    exact ⟨_, rfl⟩
  · rw [View.application_of_not_overwhelms shown]
    rcases Settings.application_cases state.view.regions settings with ⟨_, failed⟩ | ⟨finite, _⟩
    · rw [failed]
      exact ⟨_, rfl⟩
    · exact absurd (unbounded.symm.trans finite) (by decide)
  · rw [View.application_of_not_overwhelms shown]
    rcases Settings.application_cases state.view.regions settings with
      ⟨unbounded, _⟩ | ⟨_, made, read, complete⟩
    · exact absurd (unbounded.symm.trans bounded) (by decide)
    · rw [read]
      refine ⟨⟨made, none⟩, _, rfl, complete, ?_⟩
      intro clock request serving listing unnamed
      exact ⟨serve_fst ⟨made, none⟩ listing.reaches serving, fun complaint about =>
        not_rejected_of_isComplete clock serving complete unnamed about⟩

/-- A service that has nothing but a file of settings. -/
def withSettings (text : String) : State :=
  .initial [] { Files.absent "config".toList with settings := some text.toUTF8.toList } fun _ _ =>
    .ok ⟨.int 0, [], 0⟩

/-- A clock that stands still. -/
def stillClock : Clock :=
  ⟨.onDay ⟨2024, 3, 15⟩, ⟨Moment.midnight ⟨2024, 3, 15⟩, some .utc, false⟩, Binary64.ofInt 0,
    Binary64.ofInt 0⟩

/-- A listing with a query. -/
def listingOf (query : String) : Request :=
  ⟨"GET", ⟨Target.defaultHost, "/api/auditlogs/".toList, query.toList⟩, [], none, 0⟩

/-- A huge page size, and an entry of its own for the zone. -/
theorem create_unless_outsized_huge :
    ∃ application later,
      create.runFrom (withSettings "\x7b\"default_page_size\": 1e300, \"TZ\": 3\x7d") =
        (.ok application, later) ∧
      Settings.IsComplete .utcOnly application.settings ∧
      ((handle stillClock (listingOf "from=2") .list).runFrom
        (later.entered application.settings)).1 ≠
          .ok (.rejected (.unacceptable .sizeOutOfRange)) := by
  obtain ⟨application, later, created, complete, accepted⟩ := (create_unless_outsized
    (withSettings "\x7b\"default_page_size\": 1e300, \"TZ\": 3\x7d")).2.2
      (by decide +kernel) (by decide +kernel)
  refine ⟨application, later, created, complete, ?_⟩
  exact (accepted stillClock (listingOf "from=2") later ⟨rfl, rfl⟩ (by decide +kernel)).2
    .sizeOutOfRange (.inl rfl)

/-- An infinite page size leaves the service without an application. -/
theorem create_infinite :
    ∃ later, create.runFrom (withSettings "\x7b\"default_page_size\": Infinity\x7d") =
      (.error (.unconvertible .tooLarge), later) := by
  obtain ⟨entries, created⟩ :=
    create_runFrom (withSettings "\x7b\"default_page_size\": Infinity\x7d")
  rcases Settings.application_cases .utcOnly
      ((withSettings "\x7b\"default_page_size\": Infinity\x7d").view.fileSettings .startup) with
    ⟨_, failed⟩ | ⟨finite, _⟩
  · rw [View.application_of_not_overwhelms (by decide +kernel)] at created
    exact ⟨_, created.trans (congrArg (fun made => (_ <$> made, _)) failed)⟩
  · exact absurd finite (by decide +kernel)

end Application

end AuditTrail.Http
