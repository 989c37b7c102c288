import AuditTrail.Proofs.Http.Invariant
import AuditTrail.Proofs.Http.Startup

/-!
# Requests leave no session open

A request is handled inside its context whatever comes of it, and ending the request closes the
session that it was lent.
-/

namespace AuditTrail.Http

open Service Action

theorem withstands_inRequest (start : State) (settings : List (String × Value)) :
    Withstands (InRequest start settings) where
  logged _ _ inside := inside.aside rfl
  call made _ inside := inside.call made
  ping _ inside := inside.ping

/-- What is done outside of requests: an application is made, a call is made without a session, or
a request is handled. -/
inductive Step where
  | startup
  | call (call : Call)
  | request (application : Application) (clock : Clock) (request : Request)

namespace Step

/-- The state after a step. -/
def run : Step → State → State
  | .startup, state => (Application.create.runFrom state).2
  | .call made, state => (made.action.runFrom state).2
  | .request application clock asked, state =>
      ((application.serve clock asked).runFrom state).2

/-- A call has a session of its own; a request is handled in its context, which is ended then; an
application is made without a session. -/
def Releases : Step → State → Prop
  | .startup, before => (Application.create.runFrom before).2.books = before.books
  | .call made, before => made.HasOwnSession before
  | .request application clock asked, before =>
      ∃ response inside, (application.serve clock asked).runFrom before =
          (.ok response, inside.released) ∧
        InRequest before application.settings inside

variable {state : State}

/-- A step leaves no session open. -/
theorem releases (step : Step) (settled : state.IsSettled) :
    step.Releases state ∧ (step.run state).IsSettled := by
  cases step with
  | startup =>
      obtain ⟨entries, creates⟩ := Application.create_runFrom state
      rw [Releases, run, creates]
      exact ⟨rfl, settled.of_isAt (settled.isAt.logged _)⟩
  | call made => exact made.hasOwnSession settled
  | request application clock asked =>
      obtain ⟨response, inside, serves, reached⟩ :=
        (withstands_inRequest state application.settings).serve application clock asked .entered
      refine ⟨⟨response, inside, serves, reached⟩, ?_⟩
      rw [run, serves]
      exact ((reached.isInside settled).endsSession settled).2.1

/-- The state after some steps, one after the other. -/
def runAll (steps : List Step) (state : State) : State :=
  steps.foldl (fun state step => step.run state) state

theorem isSettled_runAll (steps : List Step) (settled : state.IsSettled) :
    (runAll steps state).IsSettled := by
  induction steps generalizing state with
  | nil => exact settled
  | cons step rest ih => exact ih (step.releases settled).2

/-- After any steps no session is open: each was closed exactly once.  A call that follows has a
session of its own, which is closed when the call ends; all calls of a request that follows share
one session, which is closed when the request ends.  Whenever a call fails in its session, the
transaction is taken back before the session is closed, and the fault is the outcome. -/
theorem sessions_released {start : State} (settled : start.IsSettled) (steps : List Step) :
    let state := runAll steps start
    state.IsSettled ∧
    (∀ session engine, .opened session engine ∈ state.journal.events →
      state.journal.events.count (.closed session) = 1) ∧
    (∀ step : Step, step.Releases state) ∧
    ∀ settings inside, InRequest state settings inside →
      (∀ call : Call, call.SharesSession (state.sessionCount + 1) inside) ∧
      EndsSession state inside := by
  intro state
  have ended : state.IsSettled := isSettled_runAll steps settled
  refine ⟨ended, fun session engine opened => ?_, fun step => (step.releases ended).1, ?_⟩
  · have lived : .opened session engine ∈ state.books.lives :=
      List.mem_filter.mpr ⟨opened, rfl⟩
    have closed := ended.past.count_closed session
    rw [if_pos (ended.past.numbered lived)] at closed
    rwa [State.books, List.count_filter rfl] at closed
  · intro settings inside reached
    have stands := reached.isInside ended
    exact ⟨fun call => (call.sharesSession stands).1, stands.endsSession ended⟩

/-- A service whose store loses every connection. -/
def failing : State :=
  .initial [] (.absent "config".toList) fun _ _ =>
    .error (.raised .runtime "connection lost")

/-- A listing, and a call that follows it. -/
def listingThenCall : List Step :=
  [.request ⟨[("TZ", .zone .utc)], none⟩ Application.stillClock (Application.listingOf "from=2"),
    .call (.record (.int 7))]

/-- Both sessions are closed, although the store fails in both. -/
theorem sessions_released_failing :
    failing.IsSettled ∧
      (runAll listingThenCall failing).journal.events.count (.closed 1) = 1 ∧
      (runAll listingThenCall failing).journal.events.count (.closed 2) = 1 := by
  have settled : failing.IsSettled := State.isSettled_initial _ _ _
  obtain ⟨_, once, _⟩ := sessions_released settled listingThenCall
  exact ⟨settled, once 1 1 (by decide +kernel), once 2 1 (by decide +kernel)⟩

end Step

end AuditTrail.Http
