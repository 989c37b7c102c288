import AuditTrail.Proofs.Http.Application
import AuditTrail.Proofs.Json.Reading
import AuditTrail.Proofs.Settings

/-!
# Responses that report failures

A response with the status of a failure is a JSON map that says so, wherever the failure has come
from: a refusal, a fault of the service, or an endpoint that could not do its work.
-/

namespace AuditTrail.Http

open Text Json Service Action

/-- Whether a body is a JSON map that reports a failure, to whoever has room for one level. -/
def ReportsFailure (body : List Char) : Prop :=
  ∃ entries, (∀ room, Json.read (room + 1) body = .ok (.map entries)) ∧
    entries.lookup "ok" = some (.bool false)

/-- Whether a response is JSON that reports a failure. -/
structure Response.IsFailure (response : Response) : Prop where
  mediaType : response.header? "Content-Type" = some jsonType
  body : ReportsFailure response.body

/-- Whether a response reports a failure if its status says so. -/
def Response.IsSound (response : Response) : Prop := 400 ≤ response.status → response.IsFailure

theorem Rejection.length_status (rejection : Rejection) :
    (Nat.toDigits 10 rejection.status).length ≤ maxReadDigits := by
  have short : ∀ n ∈ [400, 404, 405, 500], (Nat.toDigits 10 n).length ≤ maxReadDigits := by
    decide +kernel
  exact short _ (by cases rejection <;> simp [status])

/-- The body of a refusal reports a failure, whatever the method and the path are. -/
theorem Rejection.reportsFailure (rejection : Rejection) (method : String) (path : List Char) :
    ReportsFailure (rejection.body method path) := by
  have parts : rejection.body method path = mapText [' ']
      [("ok", "false".toList), ("error", Json.string rejection.reason.toList),
        ("code", integerText rejection.status),
        ("description", Json.string rejection.description), ("path", Json.string path),
        ("method", Json.string method.toList)] ++ [] := by
    rw [List.append_nil]
    rfl
  rw [ReportsFailure, parts]
  refine ⟨_, fun room => read_mapText room (by simp [isSpace]) (.cons (writes_false.entry _) <|
    .cons ((writes_string _).entry _) <|
    .cons ((writes_natural rejection.length_status).entry _) <|
    .cons ((writes_string _).entry _) <| .cons ((writes_string _).entry _) <|
    .cons ((writes_string _).entry _) .nil) (by simp), ?_⟩
  simp [gathered, Value.lookup_insert]

/-- A message about a failure as a body; the names stand in ascending order. -/
def failureText (message : String) : List Char :=
  mapText [] [("error", Json.string message.toList), ("ok", "false".toList)] ++ ['\n']

theorem reportsFailure_failureText (message : String) : ReportsFailure (failureText message) := by
  refine ⟨_, fun room => read_mapText room (by simp) (.cons ((writes_string _).entry _) <|
    .cons (writes_false.entry _) .nil) (by simp [isSpace]), ?_⟩
  simp [gathered, Value.lookup_insert]

theorem bodyOf_failed (message : String) :
    Application.bodyOf (.map [("ok", .bool false), ("error", .text message)]) =
      .ok (failureText message) := by
  have sorted : [("ok", "false".toList), ("error", Json.string message.toList)].mergeSort nameLe =
      [("error", Json.string message.toList), ("ok", "false".toList)] := by
    have known : nameLe ("ok", "false".toList) ("error", []) = false := by decide +kernel
    have later : nameLe ("ok", "false".toList) ("error", Json.string message.toList) = false :=
      known
    rw [List.mergeSort]
    simp [List.MergeSort.Internal.splitInTwo, -String.reduceToList, later]
  have written : compact (.map [("ok", .bool false), ("error", .text message)]) =
      .ok (mapText [] [("error", Json.string message.toList), ("ok", "false".toList)]) := by
    simp only [compact, compactEntries]
    change Except.ok ('\x7b' :: join [','] (([("ok", "false".toList),
      ("error", Json.string message.toList)].mergeSort nameLe).map fun entry =>
        Json.string entry.1.toList ++ ':' :: entry.2) ++ ['\x7d']) = _
    rw [sorted]
    simp [mapText, entryText]
  rw [Application.bodyOf, written, failureText]

theorem faultBody_eq : Application.faultBody = failureText "Internal Server Error" := by
  decide +kernel

/-- What endpoints come to: an answer with status 200, a message about a failure, or a refusal. -/
inductive Outcome.IsRegular : Outcome → Prop where
  | answered (body : Value) : IsRegular (answered 200 body)
  | failed (status : Nat) (message : String) : IsRegular (failed status message)
  | rejected (rejection : Rejection) : IsRegular (rejected rejection)

theorem yields_withParameters {α : Type} {parameters : Except Refusal α}
    {work : α → Action Outcome} (works : ∀ read, Yields Outcome.IsRegular (work read)) :
    Yields Outcome.IsRegular (withParameters parameters work) := by
  rw [withParameters.eq_def]
  split
  · exact works _
  · exact .pure (.rejected _)
  · exact .throw _

theorem yields_answerPage (request : PageRequest) (page : Page) (took : Int) :
    Yields Outcome.IsRegular (answerPage request page took) :=
  .bind fun _ => .pure (.answered _)

theorem yields_handle (clock : Clock) (request : Request) (endpoint : Endpoint) :
    Yields Outcome.IsRegular (handle clock request endpoint) := by
  cases endpoint with
  | search =>
      refine .bind fun _ => .bind fun _ => yields_withParameters fun parameters =>
        .bind fun found => ?_
      cases found with
      | error fault => exact .bind fun _ => .pure (.failed _ _)
      | ok page => exact .bind fun _ => .bind fun _ => yields_answerPage _ _ _
  | list =>
      refine .bind fun _ => .bind fun _ => yields_withParameters fun page => .bind fun found => ?_
      cases found with
      | error fault => exact .bind fun _ => .pure (.failed _ _)
      | ok page => exact .bind fun _ => yields_answerPage _ _ _
  | record id =>
      cases id with
      | none => exact .pure (.rejected _)
      | some id =>
          refine .bind fun found => ?_
          cases found with
          | error fault => exact .bind fun _ => .pure (.failed _ _)
          | ok record =>
              cases record with
              | none => exact .pure (.rejected _)
              | some record => exact .pure (.answered _)
  | liveness => exact .bind fun _ => .pure (.answered _)
  | reachability =>
      refine .bind fun reached => ?_
      split
      · exact .pure (.answered _)
      · exact .pure (.failed _ _)
  | asset => exact .pure (.rejected _)

namespace Application

variable {request : Request}

theorem isFailure_refusal (request : Request) (rejection : Rejection) :
    (refusal request rejection).IsFailure := by
  have reports := rejection.reportsFailure request.method request.target.path
  cases rejection <;> exact ⟨rfl, reports⟩

theorem isFailure_apology : apology.IsFailure where
  mediaType := rfl
  body := by
    rw [apology, Response.ofBody, faultBody_eq]
    exact reportsFailure_failureText _

theorem isSound_answer {outcome : Outcome} (regular : outcome.IsRegular) :
    (answer request (.ok outcome)).IsSound := by
  cases regular with
  | answered body =>
      rw [answer]
      split
      · intro refused
        simp [Response.ofBody] at refused
      · exact fun _ => isFailure_apology
  | failed status message =>
      rw [Outcome.failed, answer, bodyOf_failed]
      exact fun _ => ⟨rfl, reportsFailure_failureText message⟩
  | rejected rejection => exact fun _ => isFailure_refusal request rejection

theorem yields_reject (request : Request) (rejection : Rejection) :
    Yields Response.IsSound (reject request rejection) := by
  intro state response later done
  obtain ⟨entries, rejects⟩ := reject_runFrom request rejection state
  obtain ⟨rfl, -⟩ : refusal request rejection = response ∧ _ := by simpa [rejects] using done
  exact fun _ => isFailure_refusal request rejection

theorem yields_respond (clock : Clock) (request : Request) (endpoint : Endpoint) :
    Yields Response.IsSound (respond clock request endpoint) := by
  intro state response later done
  cases handles : (handle clock request endpoint).runFrom state with
  | mk outcome handled =>
      obtain ⟨entries, responds⟩ := respond_runFrom handles
      obtain ⟨rfl, -⟩ : answer request outcome = response ∧ _ := by simpa [responds] using done
      cases outcome with
      | error fault => exact fun _ => isFailure_apology
      | ok outcome =>
          exact isSound_answer (yields_handle clock request endpoint state outcome handled handles)

theorem yields_follow (clock : Clock) (request : Request) (route : Route) :
    Yields Response.IsSound (follow clock request route) := by
  have plain {response : Response} (fine : response.status < 400) :
      Yields Response.IsSound (pure response) :=
    .pure fun refused => absurd refused (by omega)
  rw [follow.eq_def]
  split
  · exact .throw _
  · split
    · exact plain (show 200 < 400 by decide)
    · exact yields_respond clock request _
  · exact plain (show 308 < 400 by decide)
  · exact yields_reject request _
  · exact yields_reject request _

theorem yields_produce (application : Application) (clock : Clock) (request : Request) :
    Yields Response.IsSound (produce application clock request) := by
  have breaks (fault : Fault) : Yields Response.IsSound (breakDown application request fault) := by
    intro state response later done
    obtain ⟨entries, ends⟩ := breakDown_runFrom application request fault state
    obtain ⟨rfl, -⟩ : refusal request .broken = response ∧ _ := by simpa [ends] using done
    exact fun _ => isFailure_refusal request .broken
  refine .bind_of (.attempt (yields_follow clock request _)) fun outcome sound => ?_
  cases outcome with
  | error fault => exact breaks fault
  | ok response =>
      dsimp only
      split
      · exact breaks _
      · exact .pure (sound response rfl)

/-- Sending a response keeps its media type, and its body too unless only headers are asked for. -/
theorem isSound_finish {response : Response} (sound : response.IsSound)
    (asks : request.method ≠ "HEAD") : (finish request response).IsSound := by
  intro refused
  rw [status_finish] at refused
  have failure := sound refused
  have kept : finish request response = CrossOrigin.permit request response := by
    simp [finish, asks]
  rw [kept]
  refine ⟨?_, failure.body⟩
  have named := failure.mediaType
  rw [Response.header?] at named ⊢
  rw [CrossOrigin.permit, List.append_assoc, List.lookup_append, named]
  rfl

end Application

end AuditTrail.Http
