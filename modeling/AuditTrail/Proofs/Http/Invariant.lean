import AuditTrail.Proofs.Http.Handler
import AuditTrail.Proofs.Service.Calls

/-!
# What requests preserve

Handling a request is made of calls, of asking whether the store can be reached and of log entries.
What those preserve is preserved whatever the request is and whatever goes wrong.
-/

namespace AuditTrail.Http

open Service Action

/-- Log entries, calls and asking whether the store can be reached lead from states of a kind to
states of that kind. -/
structure Withstands (holds : State → Prop) : Prop where
  logged : ∀ state entries, holds state → holds (state.logged entries)
  call : ∀ call : Call, Preserves holds call.action
  ping : Preserves holds ping

namespace Withstands

variable {holds : State → Prop} (withstands : Withstands holds)

include withstands

theorem log (level : Level) (source : Source) (message : List Char) :
    Preserves holds (log level source message) :=
  fun state there => withstands.logged state _ there

theorem logFault (level : Level) (source : Source) (message : List Char) (fault : Fault) :
    Preserves holds (logFault level source message fault) :=
  fun state there => withstands.logged state _ there

theorem dateZone : Preserves holds dateZone := by
  intro state there
  obtain ⟨entries, found⟩ := dateZone_runFrom state
  rw [found]
  exact withstands.logged state entries there

theorem listingSize : Preserves holds listingSize := by
  intro state there
  obtain ⟨entries, found⟩ := listingSize_runFrom state
  rw [found]
  exact withstands.logged state entries there

omit withstands in
theorem answerPage (request : PageRequest) (page : Page) (took : Int) :
    Preserves holds (answerPage request page took) :=
  .bind (.ofExcept _) fun _ => .pure _

omit withstands in
theorem withParameters {α : Type} {parameters : Except Refusal α}
    {work : α → Action Outcome} (works : ∀ read, Preserves holds (work read)) :
    Preserves holds (withParameters parameters work) := by
  rw [withParameters.eq_def]
  split
  · exact works _
  · exact .pure _
  · exact .throw _

theorem handle (clock : Clock) (request : Request) (endpoint : Endpoint) :
    Preserves holds (handle clock request endpoint) := by
  cases endpoint with
  | search =>
      refine .bind (.ofExcept _) fun _ => .bind withstands.dateZone fun _ =>
        withParameters fun parameters => ?_
      refine .bind (.attempt (withstands.call (.search (some parameters.query) parameters.page)))
        fun outcome => ?_
      cases outcome with
      | error fault => exact .bind (withstands.logFault _ _ _ _) fun _ => .pure _
      | ok page =>
          exact .bind (.ofExcept _) fun _ => .bind (withstands.log _ _ _) fun _ =>
            answerPage _ _ _
  | list =>
      refine .bind withstands.listingSize fun _ => .bind withstands.dateZone fun _ =>
        withParameters fun page => ?_
      refine .bind (.attempt (withstands.call (.list page))) fun outcome => ?_
      cases outcome with
      | error fault => exact .bind (withstands.logFault _ _ _ _) fun _ => .pure _
      | ok page => exact .bind (.ofExcept _) fun _ => answerPage _ _ _
  | record id =>
      cases id with
      | none => exact .pure _
      | some id =>
          refine .bind (.attempt (withstands.call (.record (.int id)))) fun outcome => ?_
          cases outcome with
          | error fault => exact .bind (withstands.logFault _ _ _ _) fun _ => .pure _
          | ok found => cases found <;> exact .pure _
  | liveness => exact .bind (.ofExcept _) fun _ => .pure _
  | reachability =>
      refine .bind withstands.ping fun reached => ?_
      split <;> exact .pure _
  | asset => exact .pure _

theorem reject (request : Request) (rejection : Rejection) :
    Preserves holds (Application.reject request rejection) := by
  refine .bind (withstands.log _ _ _) fun _ => ?_
  split <;> exact .pure _

theorem respond (clock : Clock) (request : Request) (endpoint : Endpoint) :
    Preserves holds (Application.respond clock request endpoint) := by
  refine .bind (.attempt (.bind (withstands.handle clock request endpoint) fun outcome => ?_))
    fun result => ?_
  · cases outcome with
    | answered status value => exact .bind (.ofExcept _) fun _ => .pure _
    | rejected rejection => exact .pure _
  · split
    · exact .pure _
    · exact withstands.reject request _
    · exact .bind (withstands.logFault _ _ _ _) fun _ => .pure _

theorem follow (clock : Clock) (request : Request) (route : Route) :
    Preserves holds (Application.follow clock request route) := by
  rw [Application.follow.eq_def]
  split
  · exact .throw _
  · split
    · exact .pure _
    · exact withstands.respond clock request _
  · exact .pure _
  · exact withstands.reject request _
  · exact withstands.reject request _

theorem breakDown (application : Application) (request : Request) (fault : Fault) :
    Preserves holds (application.breakDown request fault) := by
  refine .bind (withstands.logFault _ _ _ _) fun _ =>
    .bind (withstands.reject request _) fun _ => ?_
  split
  · exact .bind (withstands.logFault _ _ _ _) fun _ => .pure _
  · exact .pure _

theorem produce (application : Application) (clock : Clock) (request : Request) :
    Preserves holds (application.produce clock request) := by
  refine .bind (.attempt (withstands.follow clock request _)) fun outcome => ?_
  cases outcome with
  | error fault => exact withstands.breakDown application request fault
  | ok response =>
      dsimp only
      split
      · exact withstands.breakDown application request _
      · exact .pure _

end Withstands

namespace Application

/-- Whatever goes wrong, there is a response. -/
theorem produce_ok (application : Application) (clock : Clock) (request : Request)
    (state : State) :
    ∃ response later, (produce application clock request).runFrom state =
      (.ok response, later) := by
  rw [produce, runFrom_bind_of_ok (runFrom_attempt _ state)]
  generalize (follow clock request _).runFrom state = followed
  obtain ⟨fault | response, later⟩ := followed
  · obtain ⟨entries, ends⟩ := breakDown_runFrom application request fault later
    exact ⟨_, _, ends⟩
  · cases application.afterwards with
    | none => exact ⟨response, later, rfl⟩
    | some fault =>
        obtain ⟨entries, ends⟩ := breakDown_runFrom application request fault later
        exact ⟨_, _, ends⟩

end Application

/-- A request is handled in its context, which is ended before the response is sent. -/
theorem Withstands.serve {holds : State → Prop} (withstands : Withstands holds)
    (application : Application) (clock : Clock) (request : Request) {state : State}
    (begun : holds (state.entered application.settings)) :
    ∃ response inside, (application.serve clock request).runFrom state =
        (.ok response, inside.released) ∧
      holds inside := by
  obtain ⟨response, inside, produces⟩ :=
    application.produce_ok clock request (state.entered application.settings)
  have handled := withstands.produce application clock request _ begun
  rw [produces] at handled
  exact ⟨_, inside, Application.serve_of_produce produces, handled⟩

end AuditTrail.Http
