import AuditTrail.Proofs.Http.Failure
import AuditTrail.Proofs.Http.Release
import AuditTrail.Proofs.Service.Alike

/-!
# Uniform errors

Every request has a response, and a response with the status of a failure is JSON that says so.
Nothing in a response depends on what kind of fault the store has had, or on its wording.
-/

namespace AuditTrail.Http

open Service Action

theorem uniform_withParameters {α : Type} {parameters : Except Refusal α}
    {work : α → Action Outcome} (works : ∀ read, Uniform (work read)) :
    Uniform (withParameters parameters work) := by
  rw [withParameters.eq_def]
  split
  · exact works _
  · exact .pure _
  · exact .throw _ _

theorem uniform_dateZone : Uniform dateZone :=
  @Agree.of_logged _ _ (fun state => .ok state.view.dateZone) (fun _ => rfl) dateZone_runFrom

theorem uniform_listingSize : Uniform listingSize :=
  .of_logged (fun _ => rfl) listingSize_runFrom

theorem uniform_answerPage (request : PageRequest) (page : Page) (took : Int) :
    Uniform (answerPage request page took) :=
  .bind (.ofExcept rfl) fun _ => .pure _

theorem uniform_handle (clock : Clock) (request : Request) (endpoint : Endpoint) :
    Uniform (handle clock request endpoint) := by
  cases endpoint with
  | search =>
      exact .bind (.ofExcept rfl) fun _ => .bind uniform_dateZone fun _ =>
        uniform_withParameters fun parameters =>
          .attempt_bind (uniform_call (.search (some parameters.query) parameters.page))
            (fun _ _ => .bind (agree_logFault _ _ _ _ _) fun _ => .pure _)
            fun _ => .bind (.ofExcept rfl) fun _ => .bind (uniform_log _ _ _) fun _ =>
              uniform_answerPage _ _ _
  | list =>
      exact .bind uniform_listingSize fun _ => .bind uniform_dateZone fun _ =>
        uniform_withParameters fun page =>
          .attempt_bind (uniform_call (.list page))
            (fun _ _ => .bind (agree_logFault _ _ _ _ _) fun _ => .pure _)
            fun _ => .bind (.ofExcept rfl) fun _ => uniform_answerPage _ _ _
  | record id =>
      cases id with
      | none => exact .pure _
      | some id =>
          refine .attempt_bind (uniform_call (.record (.int id)))
            (fun _ _ => .bind (agree_logFault _ _ _ _ _) fun _ => .pure _) fun found => ?_
          cases found <;> exact .pure _
  | liveness => exact .bind (.ofExcept rfl) fun _ => .pure _
  | reachability =>
      refine .bind uniform_ping fun reached => ?_
      split <;> exact .pure _
  | asset => exact .pure _

namespace Application

theorem uniform_reject (request : Request) (rejection : Rejection) :
    Uniform (reject request rejection) := by
  refine .bind (uniform_log _ _ _) fun _ => ?_
  split <;> exact .pure _

theorem uniform_respond (clock : Clock) (request : Request) (endpoint : Endpoint) :
    Uniform (respond clock request endpoint) := by
  refine .attempt_bind (.bind (uniform_handle clock request endpoint) fun outcome => ?_)
    (fun _ _ => .bind (agree_logFault _ _ _ _ _) fun _ => .pure _) fun result => ?_
  · cases outcome with
    | answered status value => exact .bind (.ofExcept rfl) fun _ => .pure _
    | rejected rejection => exact .pure _
  · cases result with
    | ok response => exact .pure _
    | error rejection => exact uniform_reject request rejection

theorem uniform_follow (clock : Clock) (request : Request) (route : Route) :
    Uniform (follow clock request route) := by
  rw [follow.eq_def]
  split
  · exact .throw _ _
  · split
    · exact .pure _
    · exact uniform_respond clock request _
  · exact .pure _
  · exact uniform_reject request _
  · exact uniform_reject request _

theorem agree_breakDown (application : Application) (request : Request) (fault other : Fault) :
    Agree (breakDown application request fault) (breakDown application request other) := by
  refine .bind (agree_logFault _ _ _ _ _) fun _ => .bind (uniform_reject request _) fun _ => ?_
  split
  · exact .bind (agree_logFault _ _ _ _ _) fun _ => .pure _
  · exact .pure _

theorem uniform_produce (application : Application) (clock : Clock) (request : Request) :
    Uniform (produce application clock request) := by
  refine .attempt_bind (uniform_follow clock request _)
    (fun fault other => agree_breakDown application request fault other) fun response => ?_
  dsimp only
  split
  · exact agree_breakDown application request _ _
  · exact .pure _

theorem uniform_cleanUp : Uniform cleanUp :=
  .bind (.update fun _ => rfl) fun _ => uniform_removeCurrent

/-- A request has the same response, whatever faults the store has. -/
theorem uniform_serve (application : Application) (clock : Clock) (request : Request) :
    Uniform (application.serve clock request) :=
  .bind (.update fun _ => rfl) fun _ => .bind (uniform_produce application clock request) fun _ =>
    .bind uniform_cleanUp fun _ => .bind (.update fun _ => rfl) fun _ => .pure _

/-- A request is always answered.  Unless it asks for headers only, a response whose status is that
of a failure is a JSON map that reports it.  A service that differs in the faults of its store only
answers the same, and differs from then on in no other way. -/
theorem errors_uniform (application : Application) (clock : Clock) (request : Request)
    (state : State) :
    ∃ response later, (application.serve clock request).runFrom state = (.ok response, later) ∧
      (request.method ≠ "HEAD" → 400 ≤ response.status → response.IsFailure) ∧
      ∀ other, state.Alike other → ∃ after,
        (application.serve clock request).runFrom other = (.ok response, after) ∧
        later.Alike after := by
  obtain ⟨response, inside, produces⟩ :=
    application.produce_ok clock request (state.entered application.settings)
  have sound : response.IsSound := yields_produce application clock request _ _ _ produces
  have serves := serve_of_produce produces
  refine ⟨finish request response, inside.released, serves, isSound_finish sound, ?_⟩
  intro other alike
  obtain ⟨same, after⟩ := uniform_serve application clock request state other alike
  rw [serves] at same after
  generalize (application.serve clock request).runFrom other = ends at same after
  obtain ⟨fault | answered, later⟩ := ends
  · cases same
  · obtain rfl := Option.some.inj same
    exact ⟨later, rfl, after⟩

/-- A service whose store refuses every statement in words of its own. -/
def refusing : State :=
  .initial [] (.absent "config".toList) fun _ _ =>
    .error (.raised .value "relation audit_logs does not exist")

/-- Which fault the store has does not show in the response to a listing. -/
theorem errors_uniform_refusing :
    (listingOf "from=2").method ≠ "HEAD" ∧ Step.failing.Alike refusing ∧
    ∃ response later after,
      (serve ⟨[("TZ", .zone .utc)], none⟩ stillClock (listingOf "from=2")).runFrom Step.failing =
        (.ok response, later) ∧
      (serve ⟨[("TZ", .zone .utc)], none⟩ stillClock (listingOf "from=2")).runFrom refusing =
        (.ok response, after) ∧
      response.status = 500 ∧ response.IsFailure := by
  have alike : Step.failing.Alike refusing := rfl
  have asks : (listingOf "from=2").method ≠ "HEAD" := by decide
  obtain ⟨response, later, serves, fails, uniform⟩ :=
    errors_uniform ⟨[("TZ", .zone .utc)], none⟩ stillClock (listingOf "from=2") Step.failing
  obtain ⟨after, same, -⟩ := uniform refusing alike
  have status : response.status = 500 := by
    have computed : ((serve ⟨[("TZ", .zone .utc)], none⟩ stillClock
        (listingOf "from=2")).runFrom Step.failing).1.toOption.map Response.status = some 500 := by
      decide +kernel
    rw [serves] at computed
    exact Option.some.inj computed
  exact ⟨asks, alike, response, later, after, serves, same, status,
    fails asks (by rw [status]; decide)⟩

end Application

end AuditTrail.Http
