import AuditTrail.Proofs.Http.Startup

/-!
# Dates of requests

A date that cannot be read is answered with status 400, and nothing is executed for it.  Stray
dates alone are answered with status 500.
-/

namespace AuditTrail

/-- A value is read as no moment, as a moment in universal time or with a failure of the value,
unless it is stray. -/
theorem Value.not_isStray_iff {freeForm : FreeForm} {zone : Zone} {value : Value} :
    ¬ value.IsStray freeForm zone ↔ value.toMoment? freeForm zone = .ok none ∨
      (∃ m, value.toMoment? freeForm zone = .ok (some m) ∧ m.zone = some .utc) ∨
      ∃ fault, value.toMoment? freeForm zone = .error fault ∧ fault.kind = .value := by
  rw [isStray_iff]
  cases read : value.toMoment? freeForm zone with
  | error fault => simp
  | ok result =>
      cases result with
      | none => simp
      | some m => simpa using zone_of_toMoment? read

namespace Http

open Service Action

/-- What a request that comes to a search or a listing carries under each name. -/
inductive Request.Carries (request : Request) : (String → Value) → Prop where
  | search (posted : request.IsSearch) (entries : List (String × Value))
      (read : request.json? = .ok (some (.map entries))) :
      request.Carries (Settings.entry (.map entries))
  | listing (listed : request.IsListing) : request.Carries (fieldValue request.target)

namespace Application

variable {application : Application} {clock : Clock} {request : Request} {endpoint : Endpoint}
  {state : State}

/-- Parameters that cannot be read are answered with status 400, or with status 500 for whatever
makes reading them fail. -/
theorem status_of_refused {α : Type} {parameters : Except Refusal α} {work : α → Action Outcome}
    {entries : List LogEntry} {cause : Prop} (sound : application.afterwards = none)
    (reaches : request.Reaches endpoint)
    (handles : (handle clock request endpoint).runFrom (state.entered application.settings) =
      (withParameters parameters work).runFrom
        ((state.entered application.settings).logged entries))
    (unread : ∀ read, parameters ≠ .ok read) (fails : FailsFor cause parameters) :
    ∃ response later, (serve application clock request).runFrom state = (.ok response, later) ∧
      state.IsUntouched later ∧
      (response.status = 400 ∨ (response.status = 500 ∧ cause)) := by
  cases refused : parameters with
  | ok read => exact absurd refused (unread read)
  | error refusal =>
      obtain ⟨later, serves, untouched⟩ := serve_refused reaches handles refused
      refine ⟨_, later, serves, untouched, ?_⟩
      cases refusal with
      | complaint complaint => exact .inl (status_reply_rejected sound request _)
      | fault fault => exact .inr ⟨status_reply_error request fault, fails fault refused⟩

/-- Reading a date gives no moment, a moment in universal time or a failure of the value, unless
the date is stray.  A request to an application that was made as the service makes it is answered
with status 400, before anything is executed, when it has a date that cannot be read; for stray
dates alone the status may be 500. -/
theorem dates_answered (clock : Clock) (zone : Zone) (value : Value) :
    (¬ value.IsStray clock.freeForm zone ↔
      value.toMoment? clock.freeForm zone = .ok none ∨
        (∃ m, value.toMoment? clock.freeForm zone = .ok (some m) ∧ m.zone = some .utc) ∨
        ∃ fault, value.toMoment? clock.freeForm zone = .error fault ∧ fault.kind = .value) ∧
    ∀ first application made, create.runFrom first = (.ok application, made) →
      ∀ request state field name fault,
        (state.entered application.settings).view.dateZone = zone →
        request.Carries field → name = "fromDate" ∨ name = "toDate" → field name = value →
        value.toMoment? clock.freeForm zone = .error fault →
        ∃ response later, (serve application clock request).runFrom state =
            (.ok response, later) ∧
          state.IsUntouched later ∧
          (response.status = 400 ∨ (response.status = 500 ∧
            ((field "fromDate").IsStray clock.freeForm zone ∨
              (field "toDate").IsStray clock.freeForm zone))) := by
  refine ⟨Value.not_isStray_iff, ?_⟩
  rintro first application made created request state field name fault rfl carries named rfl bad
  obtain ⟨sound, complete⟩ := isComplete_of_create created
  -- Acceptable parameters would have both dates.
  have unread {defaultSize : Int} {page : PageRequest} :
      ¬ Asks clock.freeForm (state.entered application.settings).view.dateZone defaultSize field
        page := by
    intro asks
    rcases named with rfl | rfl
    · cases bad.symm.trans asks.earliest
    · cases bad.symm.trans asks.latest
  cases carries with
  | search posted entries read =>
      obtain ⟨logs, handles⟩ :=
        handle_search_runFrom clock request (state.entered application.settings)
      have parameters : searchParameters clock.freeForm
            (state.entered application.settings).view.dateZone request =
          SearchParameters.readEntries clock.freeForm
            (state.entered application.settings).view.dateZone (.map entries) := by
        rw [searchParameters, read]
        rfl
      rw [parameters] at handles
      refine status_of_refused sound posted.reaches handles ?_
        (SearchParameters.failsFor_readEntries _)
      exact fun parameters read =>
        unread (SearchParameters.readEntries_eq_ok_iff.mp read).toAsks
  | listing listed =>
      obtain ⟨size, sized, least, _⟩ := complete.size
      obtain ⟨logs, handles⟩ :=
        handle_list_runFrom clock request (state.entered application.settings)
      rw [listingSize_of_isComplete state sized (by omega)] at handles
      refine status_of_refused sound listed.reaches handles ?_ (failsFor_readListing _ _)
      exact fun parameters read => unread (readListing_eq_ok_iff.mp read).1

/-- A word that is no date, in whatever zone. -/
theorem toMoment?_yesterday (zone : Zone) :
    (Value.text "yesterday").toMoment? stillClock.freeForm zone =
      .error (.notTimestamp (.text "yesterday")) := by
  rfl

/-- A date that is no date is a bad request. -/
theorem dates_answered_yesterday :
    ∃ application made response later,
      create.runFrom (withSettings "\x7b\x7d") = (.ok application, made) ∧
      (serve application stillClock (listingOf "fromDate=yesterday")).runFrom made =
        (.ok response, later) ∧
      made.IsUntouched later ∧ response.status = 400 := by
  obtain ⟨entries, created⟩ := create_runFrom (withSettings "\x7b\x7d")
  rw [View.application_of_not_overwhelms (by decide +kernel)] at created
  rcases Settings.application_cases .utcOnly
      ((withSettings "\x7b\x7d").view.fileSettings .startup) with
    ⟨infinite, _⟩ | ⟨_, settings, read, _⟩
  · exact absurd infinite (by decide +kernel)
  rw [show (withSettings "\x7b\x7d").view.regions = .utcOnly from rfl, read] at created
  have listed : (listingOf "fromDate=yesterday").IsListing := ⟨rfl, rfl⟩
  have first : fieldValue (listingOf "fromDate=yesterday").target "fromDate" =
      .text "yesterday" := by
    rw [fieldValue, show (listingOf "fromDate=yesterday").target.field? "fromDate" =
      some "yesterday".toList by decide +kernel]
    rfl
  have last : fieldValue (listingOf "fromDate=yesterday").target "toDate" = .null := by
    rw [fieldValue, show (listingOf "fromDate=yesterday").target.field? "toDate" = none by
      decide +kernel]
  obtain ⟨response, later, serves, untouched, answered⟩ :=
    (dates_answered stillClock _ (.text "yesterday")).2 _ _ _ created _ _ _ "fromDate" _ rfl
      (.listing listed) (.inl rfl) first (toMoment?_yesterday _)
  refine ⟨_, _, response, later, created, serves, untouched, ?_⟩
  rcases answered with bad | ⟨_, strays | strays⟩
  · exact bad
  · rw [first, Value.isStray_iff] at strays
    obtain ⟨fault, failed, other⟩ := strays
    cases (toMoment?_yesterday _).symm.trans failed
    exact absurd rfl other
  · rw [last, Value.isStray_iff] at strays
    obtain ⟨fault, failed, _⟩ := strays
    cases failed

/-- The last minute of the calendar, in a zone that is behind universal time: a date that can be
written and has no universal time. -/
theorem serve_stray :
    ((serve ⟨[("DEFAULT_PAGE_SIZE", .int 10), ("TZ", .zone .utc)], none⟩ stillClock
      (listingOf "fromDate=9999-12-31T23:59:59-01:00")).runFrom (withSettings
        "")).1.toOption.map Response.status = some 500 := by
  decide +kernel

end Application

end Http

end AuditTrail
