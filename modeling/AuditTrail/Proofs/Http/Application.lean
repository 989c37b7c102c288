import AuditTrail.Http.Application
import AuditTrail.Proofs.Service.Context

/-!
# Serving requests

A request runs in a context of its own, and its response follows from what its endpoint has come
to.  What is done beside that work is logging, and releasing the session of the request.
-/

namespace AuditTrail.Http

open Text Service Action

/-- Whether a request comes to an endpoint and is handled there. -/
structure Request.Reaches (request : Request) (endpoint : Endpoint) : Prop where
  route : Route.of request.method request.target.path = .found endpoint
  asks : request.method ≠ "OPTIONS"
  known : endpoint ≠ .record none

/-- Whether a request is a search. -/
def Request.IsSearch (request : Request) : Prop :=
  request.method = "POST" ∧
    (request.target.path = "/api/auditlogs/search".toList ∨
      request.target.path = "/api/auditlogs/_search".toList)

/-- Whether a request is a listing. -/
def Request.IsListing (request : Request) : Prop :=
  request.method = "GET" ∧ request.target.path = "/api/auditlogs/".toList

theorem Request.IsSearch.reaches {request : Request} (search : request.IsSearch) :
    request.Reaches .search where
  route := by
    obtain ⟨method, path | path⟩ := search <;> rw [method, path] <;> decide +kernel
  asks := by
    rw [search.1]
    decide
  known := by decide

theorem Request.IsListing.reaches {request : Request} (listing : request.IsListing) :
    request.Reaches .list where
  route := by
    rw [listing.1, listing.2]
    decide +kernel
  asks := by
    rw [listing.1]
    decide
  known := by decide

namespace Application

/-- The response to a request that is refused. -/
def refusal (request : Request) (rejection : Rejection) : Response :=
  let response := Response.ofBody rejection.status jsonType
    (rejection.body request.method request.target.path)
  match rejection with
  | .wrongMethod allowed =>
    response.addHeader "Allow" (join ", ".toList (allowed.map String.toList))
  | _ => response

/-- The response to a request whose handling failed. -/
def apology : Response := .ofBody 500 jsonType faultBody

/-- The response to a request by what its endpoint has come to. -/
def answer (request : Request) : Except Fault Outcome → Response
  | .ok (.answered status value) =>
    match bodyOf value with
    | .ok body => .ofBody status jsonType body
    | .error _ => apology
  | .ok (.rejected rejection) => refusal request rejection
  | .error _ => apology

/-- The response as it is sent; a failure of the work that follows it replaces it. -/
def reply (application : Application) (request : Request) (outcome : Except Fault Outcome) :
    Response :=
  finish request (match application.afterwards with
    | none => answer request outcome
    | some _ => refusal request .broken)

@[simp]
theorem status_finish (request : Request) (response : Response) :
    (finish request response).status = response.status := by
  rw [finish]
  split <;> rfl

@[simp]
theorem status_refusal (request : Request) (rejection : Rejection) :
    (refusal request rejection).status = rejection.status := by
  cases rejection <;> rfl

/-- A fault is answered with status 500. -/
theorem status_reply_error {application : Application} (request : Request) (fault : Fault) :
    (application.reply request (.error fault)).status = 500 := by
  rw [reply, status_finish]
  split <;> rfl

/-- A refusal is answered with its status, unless the service is broken. -/
theorem status_reply_rejected {application : Application} (sound : application.afterwards = none)
    (request : Request) (rejection : Rejection) :
    (application.reply request (.ok (.rejected rejection))).status = rejection.status := by
  simp [reply, sound, answer]

theorem reject_runFrom (request : Request) (rejection : Rejection) (state : State) :
    ∃ entries, (reject request rejection).runFrom state =
      (.ok (refusal request rejection), state.logged entries) := by
  rw [reject, runFrom_bind_of_ok (log_runFrom _ _ _ state)]
  cases rejection <;> exact ⟨_, rfl⟩

theorem apologize_runFrom (request : Request) (fault : Fault) (state : State) :
    ∃ entries, (apologize request fault).runFrom state = (.ok apology, state.logged entries) :=
  ⟨_, rfl⟩

theorem breakDown_runFrom (application : Application) (request : Request) (fault : Fault)
    (state : State) :
    ∃ entries, (breakDown application request fault).runFrom state =
      (.ok (refusal request .broken), state.logged entries) := by
  rw [breakDown, runFrom_bind_of_ok (logFault_runFrom _ _ _ fault state)]
  generalize state.journal.entries ++ _ = entries
  obtain ⟨more, rejects⟩ := reject_runFrom request .broken (state.logged entries)
  rw [runFrom_bind_of_ok rejects]
  cases application.afterwards with
  | none => exact ⟨more, rfl⟩
  | some second => exact ⟨_, rfl⟩

variable {clock : Clock} {request : Request} {endpoint : Endpoint}

theorem respond_runFrom {state handled : State} {outcome : Except Fault Outcome}
    (handles : (handle clock request endpoint).runFrom state = (outcome, handled)) :
    ∃ entries, (respond clock request endpoint).runFrom state =
      (.ok (answer request outcome), handled.logged entries) := by
  rw [respond, runFrom_bind_of_ok (runFrom_attempt _ state), runFrom_bind, handles]
  cases outcome with
  | error fault => exact apologize_runFrom request fault handled
  | ok outcome =>
      cases outcome with
      | rejected rejection => exact reject_runFrom request rejection handled
      | answered status value =>
          dsimp only
          rw [runFrom_bind, runFrom_ofExcept, answer]
          cases bodyOf value with
          | error fault => exact apologize_runFrom request fault handled
          | ok body => exact ⟨handled.journal.entries, rfl⟩

theorem follow_runFrom (reaches : request.Reaches endpoint) (state : State) :
    (follow clock request (.of request.method request.target.path)).runFrom state =
      (respond clock request endpoint).runFrom state := by
  have asks : (request.method == "OPTIONS") = false := beq_false_of_ne reaches.asks
  rw [reaches.route]
  cases endpoint with
  | record id =>
      cases id with
      | none => exact absurd rfl reaches.known
      | some id => rw [follow, asks, if_neg Bool.false_ne_true]; simp
  | _ => rw [follow, asks, if_neg Bool.false_ne_true]; simp

theorem produce_runFrom (application : Application) (reaches : request.Reaches endpoint)
    {state handled : State} {outcome : Except Fault Outcome}
    (handles : (handle clock request endpoint).runFrom state = (outcome, handled)) :
    ∃ entries, (produce application clock request).runFrom state =
      (.ok (match application.afterwards with
        | none => answer request outcome
        | some _ => refusal request .broken), handled.logged entries) := by
  obtain ⟨entries, responds⟩ := respond_runFrom handles
  rw [produce, runFrom_bind_of_ok (runFrom_attempt _ state), follow_runFrom reaches, responds]
  cases application.afterwards with
  | none => exact ⟨entries, rfl⟩
  | some fault => exact breakDown_runFrom application request fault (handled.logged entries)

/-- What is produced in the context of a request is sent when that has ended. -/
theorem serve_of_produce {application : Application} {state inside : State} {response : Response}
    (produces : (produce application clock request).runFrom (state.entered application.settings) =
      (.ok response, inside)) :
    (serve application clock request).runFrom state =
      (.ok (finish request response), inside.released) := by
  rw [serve, runFrom_bind_of_ok (enter_runFrom _ state), runFrom_bind_of_ok produces,
    release_runFrom, runFrom_pure]

/-- A request is handled in a context of its own, and its session is released. -/
theorem serve_runFrom (application : Application) (reaches : request.Reaches endpoint)
    {state handled : State} {outcome : Except Fault Outcome}
    (handles : (handle clock request endpoint).runFrom (state.entered application.settings) =
      (outcome, handled)) :
    ∃ entries, (serve application clock request).runFrom state =
      (.ok (application.reply request outcome), (handled.logged entries).released) := by
  obtain ⟨entries, produces⟩ := produce_runFrom application reaches handles
  exact ⟨entries, serve_of_produce produces⟩

/-- A request is answered by what its endpoint has come to. -/
theorem serve_fst (application : Application) (reaches : request.Reaches endpoint)
    (state : State) :
    ((serve application clock request).runFrom state).1 =
      .ok (application.reply request
        ((handle clock request endpoint).runFrom (state.entered application.settings)).1) := by
  cases handles : (handle clock request endpoint).runFrom (state.entered application.settings) with
  | mk outcome handled =>
      obtain ⟨entries, serves⟩ := serve_runFrom application reaches handles
      rw [serves]

end Application

end AuditTrail.Http
