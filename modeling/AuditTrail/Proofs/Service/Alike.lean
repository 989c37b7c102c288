import AuditTrail.Proofs.Service.Calls
import AuditTrail.Proofs.Service.Settings

/-!
# Two runs with different faults

Two runs of the service that differ in the faults of the store only do the same, but for what they
log.  The store is asked the same, and the outcomes are the same unless both are faults.
-/

namespace AuditTrail.Service

/-- The state without its store and its log. -/
def State.bare (state : State) : State :=
  { state with
    store := fun _ _ => .error .outsideContext
    unreachable := none
    journal := { state.journal with entries := [] } }

/-- What a state decides, whatever faults there are and whatever is in the log. -/
def State.course (state : State) :
    State × (Nat → Sql.Statement → Option Answer) × Bool :=
  (state.bare, fun number statement => (state.store number statement).toOption,
    state.unreachable.isSome)

/-- Whether two states differ in faults of the store and in their logs only. -/
def State.Alike (left right : State) : Prop := left.course = right.course

namespace State.Alike

variable {left right : State} (alike : left.Alike right)

include alike

theorem bare : left.bare = right.bare := congrArg Prod.fst alike

theorem answers (number : Nat) (statement : Sql.Statement) :
    (left.store number statement).toOption = (right.store number statement).toOption :=
  congrFun (congrFun (congrArg (fun course => course.2.1) alike) number) statement

theorem reachable : left.unreachable.isSome = right.unreachable.isSome :=
  congrArg (fun course => course.2.2) alike

theorem statements : left.journal.statements = right.journal.statements :=
  congrArg (fun state => state.journal.statements) alike.bare

end State.Alike

namespace Action

variable {α β : Type}

/-- Whether two actions do the same from states that are alike. -/
def Agree (first second : Action α) : Prop :=
  ∀ left right, left.Alike right →
    (first.runFrom left).1.toOption = (second.runFrom right).1.toOption ∧
      (first.runFrom left).2.Alike (second.runFrom right).2

/-- Whether an action does the same from all states that are alike. -/
abbrev Uniform (action : Action α) : Prop := Agree action action

namespace Agree

theorem pure (value : α) : Uniform (pure value : Action α) := fun _ _ alike => ⟨rfl, alike⟩

theorem throw (fault other : Fault) : Agree (throw fault : Action α) (throw other) :=
  fun _ _ alike => ⟨rfl, alike⟩

theorem ofExcept {result other : Except Fault α} (same : result.toOption = other.toOption) :
    Agree (ofExcept result : Action α) (ofExcept other) := by
  intro left right alike
  rw [runFrom_ofExcept, runFrom_ofExcept]
  exact ⟨same, alike⟩

/-- A change that neither looks at the store and the log nor touches the store. -/
theorem update {f : State → State}
    (blind : ∀ state, (f state).course = ((f state.bare).bare, state.course.2)) :
    Uniform (update f) := by
  intro left right alike
  refine ⟨rfl, ?_⟩
  rw [runFrom_update, runFrom_update, State.Alike, blind, blind, alike.bare,
    congrArg Prod.snd (show left.course = right.course from alike)]

theorem bind {first second : Action α} {next other : α → Action β} (begun : Agree first second)
    (gone : ∀ value, Agree (next value) (other value)) :
    Agree (first >>= next) (second >>= other) := by
  intro left right alike
  have step := begun left right alike
  rw [runFrom_bind, runFrom_bind]
  generalize first.runFrom left = one at step
  generalize second.runFrom right = two at step
  obtain ⟨fault | value, later⟩ := one <;> obtain ⟨fault' | value', later'⟩ := two
  · exact ⟨rfl, step.2⟩
  · cases step.1
  · cases step.1
  · obtain rfl : value = value' := Option.some.inj step.1
    exact gone value later later' step.2

/-- A step that begins with looking at the state, but not at the store and the log. -/
theorem get_bind {next : State → Action β} (blind : ∀ state, next state = next state.bare)
    (gone : ∀ state, Uniform (next state)) : Uniform (MonadState.get >>= next) := by
  intro left right alike
  rw [runFrom_bind_of_ok (runFrom_get left), runFrom_bind_of_ok (runFrom_get right),
    show next right = next left by rw [blind right, ← alike.bare, ← blind left]]
  exact gone left left right alike

/-- What follows a failure may not depend on its cause. -/
theorem attempt_bind {first second : Action α} {next other : Except Fault α → Action β}
    (begun : Agree first second)
    (failed : ∀ fault cause, Agree (next (.error fault)) (other (.error cause)))
    (gone : ∀ value, Agree (next (.ok value)) (other (.ok value))) :
    Agree (attempt first >>= next) (attempt second >>= other) := by
  intro left right alike
  have step := begun left right alike
  rw [runFrom_bind_of_ok (runFrom_attempt first left),
    runFrom_bind_of_ok (runFrom_attempt second right)]
  generalize first.runFrom left = one at step
  generalize second.runFrom right = two at step
  obtain ⟨fault | value, later⟩ := one <;> obtain ⟨fault' | value', later'⟩ := two
  · exact failed fault fault' later later' step.2
  · cases step.1
  · cases step.1
  · obtain rfl : value = value' := Option.some.inj step.1
    exact gone value later later' step.2

/-- An action that only logs beside its outcome. -/
theorem of_logged {action : Action α} {result : State → Except Fault α}
    (blind : ∀ state, result state = result state.bare)
    (runs : ∀ state, ∃ entries, action.runFrom state = (result state, state.logged entries)) :
    Uniform action := by
  intro left right alike
  obtain ⟨entries, leftRuns⟩ := runs left
  obtain ⟨others, rightRuns⟩ := runs right
  rw [leftRuns, rightRuns]
  refine ⟨?_, alike⟩
  rw [blind left, blind right, alike.bare]

end Agree

theorem uniform_log (level : Level) (source : Source) (message : List Char) :
    Uniform (log level source message) :=
  .update fun _ => rfl

/-- A fault only shows in the log. -/
theorem agree_logFault (level : Level) (source : Source) (message : List Char)
    (fault other : Fault) :
    Agree (logFault level source message fault) (logFault level source message other) :=
  fun _ _ alike => ⟨rfl, alike⟩

theorem uniform_event (e : Event) : Uniform (event e) := .update fun _ => rfl

theorem uniform_ask (statement : Sql.Statement) : Uniform (ask statement) := by
  intro left right alike
  have asks (state : State) : (ask statement).runFrom state =
      (state.store state.journal.statements.length statement,
        ((note fun journal => { journal with
          statements := journal.statements ++ [statement] }).runFrom state).2) := by
    rw [ask, runFrom_bind_of_ok (runFrom_get state), note,
      runFrom_bind_of_ok (runFrom_update _ state), runFrom_ofExcept, runFrom_update]
  have noted : Uniform (note fun journal => { journal with
      statements := journal.statements ++ [statement] }) := .update fun _ => rfl
  rw [asks, asks, alike.statements]
  exact ⟨alike.answers _ statement, (noted left right alike).2⟩

theorem uniform_execute (handle : Handle) (statement : Sql.Statement) :
    Uniform (execute handle statement) := by
  cases handle with
  | given => exact uniform_ask statement
  | numbered session =>
      exact .bind (uniform_event _) fun _ => .bind (.update fun _ => rfl) fun _ =>
        uniform_ask statement

theorem uniform_applicationSetting (name : String) : Uniform (applicationSetting name) := by
  refine .get_bind (fun _ => rfl) fun state => ?_
  split <;> exact .pure _

theorem uniform_storedSearchConfiguration : Uniform storedSearchConfiguration := by
  refine .get_bind (fun _ => rfl) fun state => ?_
  split
  · exact .pure _
  · refine .bind ?_ fun _ => .bind (.update fun _ => rfl) fun _ => .pure _
    exact .of_logged (fun _ => rfl) (searchConfiguration_runFrom .search)

theorem uniform_activeSearchConfiguration : Uniform activeSearchConfiguration := by
  refine .bind (uniform_applicationSetting _) fun setting => ?_
  split
  · split
    · exact uniform_storedSearchConfiguration
    · exact .pure _
  · exact uniform_storedSearchConfiguration

theorem uniform_loadEnvironment (file : Option (List UInt8)) (message : String) :
    Uniform (loadEnvironment file message) := by
  unfold loadEnvironment
  cases file with
  | none => exact .pure ()
  | some data =>
      refine .bind (uniform_log _ _ _) fun _ => .get_bind (fun _ => rfl) fun state => ?_
      dsimp only
      split
      · split
        · exact .throw _ _
        · refine .bind (.update fun _ => rfl) fun _ => ?_
          split
          · exact .throw _ _
          · exact .pure ()
      · exact .pure ()

theorem uniform_connectionFile : Uniform connectionFile := by
  refine .get_bind (fun _ => rfl) fun state => ?_
  split
  · exact .pure []
  · dsimp only
    split
    · exact .bind (agree_logFault _ _ _ _ _) fun _ => .pure []
    · exact .bind (uniform_log _ _ _) fun _ => .pure _
    · exact .pure []

theorem uniform_databaseUrl : Uniform databaseUrl := by
  refine .get_bind (fun _ => rfl) fun state => .bind (uniform_loadEnvironment _ _) fun _ =>
    .bind (uniform_loadEnvironment _ _) fun _ => .get_bind (fun _ => rfl) fun later => ?_
  dsimp only
  split
  · exact .pure _
  · split
    · exact .bind uniform_connectionFile fun _ => .pure _
    · exact .pure _

theorem uniform_createEngine (options : EngineOptions) : Uniform (createEngine options) :=
  .get_bind (fun _ => rfl) fun _ => .bind (uniform_event _) fun _ =>
    .bind (.update fun _ => rfl) fun _ => .pure _

theorem uniform_engine : Uniform engine := by
  refine .get_bind (fun _ => rfl) fun state => ?_
  split
  · exact .pure _
  · exact .bind uniform_databaseUrl fun _ => .get_bind (fun _ => rfl) fun _ =>
      .bind (.ofExcept rfl) fun _ => .bind (uniform_log _ _ _) fun _ => uniform_createEngine _

theorem uniform_openSession (engine : Nat) : Uniform (openSession engine) :=
  .get_bind (fun _ => rfl) fun _ => .bind (uniform_event _) fun _ =>
    .bind (.update fun _ => rfl) fun _ => .pure _

theorem uniform_closeSession (session : Nat) : Uniform (closeSession session) :=
  .bind (uniform_event _) fun _ => .update fun _ => rfl

theorem uniform_rollBack (session : Nat) : Uniform (rollBack session) := by
  refine .get_bind (fun _ => rfl) fun state => ?_
  split
  · exact .bind (uniform_event _) fun _ => .update fun _ => rfl
  · exact .pure ()

theorem uniform_removeCurrent : Uniform removeCurrent := by
  refine .get_bind (fun _ => rfl) fun state => ?_
  split
  · exact .pure ()
  · split
    · exact .pure ()
    · exact .bind (uniform_closeSession _) fun _ => .update fun _ => rfl

theorem uniform_currentSession : Uniform currentSession := by
  refine .get_bind (fun _ => rfl) fun state => ?_
  split
  · exact .throw _ _
  · split
    · exact .pure _
    · exact .bind (uniform_openSession _) fun _ => .bind (.update fun _ => rfl) fun _ => .pure _

theorem uniform_requestSession : Uniform requestSession := by
  have lent : Uniform lentSession := by
    refine .get_bind (fun _ => rfl) fun state => ?_
    split
    · exact .throw _ _
    · split
      · exact .pure _
      · exact .bind uniform_currentSession fun _ => .bind (.update fun _ => rfl) fun _ => .pure _
  rw [requestSession_eq]
  refine .get_bind (fun _ => rfl) fun state => ?_
  split
  · exact .bind uniform_engine fun _ => lent
  · exact lent

theorem uniform_ownSession : Uniform ownSession := by
  have made : Uniform factorySession := by
    refine .get_bind (fun _ => rfl) fun state => ?_
    split
    · exact .throw _ _
    · exact uniform_openSession _
  refine .get_bind (fun _ => rfl) fun state => ?_
  dsimp only
  split
  · exact .bind uniform_engine fun _ => made
  · exact made

theorem uniform_guarded (session : Nat) {work : Handle → Action α}
    (works : ∀ handle, Uniform (work handle)) : Uniform (guarded session work) :=
  .attempt_bind (works _) (fun _ _ => .bind (uniform_rollBack session) fun _ => .throw _ _)
    fun _ => .pure _

theorem uniform_withSession {work : Handle → Action α} (works : ∀ handle, Uniform (work handle)) :
    Uniform (withSession work) := by
  refine .get_bind (fun _ => rfl) fun state => ?_
  split
  · exact .bind uniform_ownSession fun session =>
      .attempt_bind (uniform_guarded session works)
        (fun _ _ => .bind (uniform_closeSession session) fun _ => .ofExcept rfl)
        fun _ => .bind (uniform_closeSession session) fun _ => .ofExcept rfl
  · exact .bind uniform_requestSession fun session => uniform_guarded session works

theorem uniform_countAndFetch (handle : Handle) (select : List Char) (clauses : List (List Char))
    (bindings : Sql.Bindings) (key : Sql.SortKey) (window : Sql.Window) :
    Uniform (countAndFetch handle select clauses bindings key window) :=
  .bind (uniform_execute handle _) fun _ => .bind (uniform_execute handle _) fun _ =>
    .bind (.ofExcept rfl) fun _ => .bind (.ofExcept rfl) fun _ => .pure _

theorem uniform_listIn (handle : Handle) (request : PageRequest) :
    Uniform (listIn handle request) :=
  .bind (.ofExcept rfl) fun _ => uniform_countAndFetch _ _ _ _ _ _

theorem uniform_runStrategy (query : Option String) (request : PageRequest) (handle : Handle)
    (strategy : Strategy) : Uniform (runStrategy query request handle strategy) := by
  cases strategy with
  | listing => exact uniform_listIn handle request
  | columns conditions =>
      exact .bind (uniform_log _ _ _) fun _ => .bind (.ofExcept rfl) fun _ =>
        .bind (.ofExcept rfl) fun _ => uniform_countAndFetch _ _ _ _ _ _
  | fullText expression =>
      exact .bind (uniform_log _ _ _) fun _ => .bind uniform_activeSearchConfiguration fun _ =>
        .bind (.ofExcept rfl) fun _ => uniform_countAndFetch _ _ _ _ _ _
  | nothing => exact .bind (uniform_log _ _ _) fun _ => .pure _

theorem uniform_recordIn (handle : Handle) (identifier : Value) :
    Uniform (recordIn handle identifier) := by
  refine .bind (.ofExcept rfl) fun id => .bind (uniform_execute handle _) fun answer => ?_
  split
  · exact .bind (.ofExcept rfl) fun _ => .pure _
  · exact .bind (uniform_log _ _ _) fun _ => .pure _

/-- A call comes to the same, whatever faults the store has. -/
theorem uniform_call (call : Call) : Uniform call.action := by
  intro left right alike
  have works (handle : Handle) : Uniform (call.work handle) := by
    cases call with
    | search query request => exact uniform_runStrategy query request handle _
    | list request => exact uniform_listIn handle request
    | record identifier => exact uniform_recordIn handle identifier
  obtain ⟨entries, leftRuns⟩ := call.action_runFrom left
  obtain ⟨others, rightRuns⟩ := call.action_runFrom right
  rw [leftRuns, rightRuns]
  exact uniform_withSession works (left.logged entries) (right.logged others) alike

theorem uniform_connect : Uniform connect := by
  refine .bind uniform_engine fun _ => .bind (uniform_event _) fun _ left right alike => ?_
  have reachable := alike.reachable
  rw [runFrom_bind_of_ok (runFrom_get left), runFrom_bind_of_ok (runFrom_get right)]
  cases here : left.unreachable <;> cases there : right.unreachable
  · exact ⟨rfl, alike⟩
  · simp [here, there] at reachable
  · simp [here, there] at reachable
  · exact ⟨rfl, alike⟩

/-- Whether the store can be reached is all that is said of it. -/
theorem uniform_ping : Uniform ping :=
  .attempt_bind
    (.bind uniform_connect fun _ => .bind (uniform_ask probe) fun _ => .pure ())
    (fun _ _ => .bind (agree_logFault _ _ _ _ _) fun _ => .pure false)
    fun _ => .pure true

end Action

end AuditTrail.Service
