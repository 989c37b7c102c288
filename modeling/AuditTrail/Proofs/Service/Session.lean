import AuditTrail.Proofs.Service.Run
import AuditTrail.Service.Search

/-!
# Sessions

Opening and closing a session runs no statement of a search and changes neither the store nor any
setting.  A session that was opened once can be had again for the next search.
-/

namespace AuditTrail.Service

/-- The part of the state that decides what a search asks the store, and what it has asked. -/
structure View where
  /-- The statements so far. -/
  statements : List Sql.Statement
  /-- The store. -/
  store : Store
  /-- The settings of the requests that are running, the innermost first. -/
  settings : List (List (String × Value))
  /-- The settings of the service. -/
  file : Option (List UInt8)
  /-- The regions that can be named. -/
  regions : Regions
  /-- The room for nested settings. -/
  room : Place → Room
  /-- The text search configuration of the file, once it was needed. -/
  searchConfiguration : Option String

/-- What a search sees of the state. -/
def State.view (state : State) : View where
  statements := state.journal.statements
  store := state.store
  settings := state.contexts.map Context.settings
  file := state.files.settings
  regions := state.files.regions
  room := state.files.room
  searchConfiguration := state.searchConfiguration

/-- The state with another log. -/
def State.logged (state : State) (entries : List LogEntry) : State :=
  { state with journal := { state.journal with entries } }

@[simp]
theorem State.view_logged (state : State) (entries : List LogEntry) :
    (state.logged entries).view = state.view := rfl

/-- The state without its log and its environment settings. -/
def State.quiet (state : State) : State :=
  { state with environment := [], journal := { state.journal with entries := [] } }

/-- The contexts beside what a search sees; finding an engine keeps both. -/
def State.frame (state : State) : View × List Context := (state.view, state.contexts)

namespace Action

variable {α : Type}

theorem keeps_note {γ : Type} {view : State → γ} {f : Journal → Journal}
    (same : ∀ state, view { state with journal := f state.journal } = view state) :
    Keeps view (note f) :=
  Keeps.update same

theorem keeps_log (level : Level) (source : Source) (message : List Char) :
    Keeps State.frame (log level source message) :=
  keeps_note fun _ => rfl

theorem keeps_logFault (level : Level) (source : Source) (message : List Char) (fault : Fault) :
    Keeps State.frame (logFault level source message fault) :=
  keeps_note fun _ => rfl

theorem keeps_event (e : Event) : Keeps State.frame (event e) := keeps_note fun _ => rfl

theorem keeps_quiet_log (level : Level) (source : Source) (message : List Char) :
    Keeps State.quiet (log level source message) :=
  keeps_note fun _ => rfl

theorem keeps_quiet_logFault (level : Level) (source : Source) (message : List Char)
    (fault : Fault) : Keeps State.quiet (logFault level source message fault) :=
  keeps_note fun _ => rfl

theorem keeps_loadEnvironment (file : Option (List UInt8)) (message : String) :
    Keeps State.quiet (loadEnvironment file message) := by
  unfold loadEnvironment
  cases file with
  | none => exact .pure ()
  | some data =>
      refine .bind (keeps_quiet_log _ _ _) fun _ => .get_bind fun state => ?_
      dsimp only
      split
      · split
        · exact .throw _
        · refine .bind (.update fun _ => rfl) fun _ => ?_
          split
          · exact .throw _
          · exact .pure ()
      · exact .pure ()

theorem keeps_connectionFile : Keeps State.quiet connectionFile := by
  unfold connectionFile
  refine .get_bind fun state => ?_
  split
  · exact .pure []
  · dsimp only
    split
    · exact .bind (keeps_quiet_logFault _ _ _ _) fun _ => .pure []
    · exact .bind (keeps_quiet_log _ _ _) fun _ => .pure _
    · exact .pure []

/-- Looking for the database changes the log and the environment settings only. -/
theorem keeps_databaseUrl : Keeps State.quiet databaseUrl := by
  unfold databaseUrl
  refine .get_bind fun state => .bind (keeps_loadEnvironment _ _) fun _ =>
    .bind (keeps_loadEnvironment _ _) fun _ => .get_bind fun later => ?_
  dsimp only
  split
  · exact .pure _
  · split
    · exact .bind keeps_connectionFile fun _ => .pure _
    · exact .pure _

theorem keeps_createEngine (options : EngineOptions) :
    Keeps State.frame (createEngine options) :=
  .get_bind fun _ => .bind (keeps_event _) fun _ => .bind (.update fun _ => rfl) fun _ => .pure _

theorem keeps_engine : Keeps State.frame engine := by
  unfold engine
  refine .get_bind fun state => ?_
  split
  · exact .pure _
  · exact .bind (keeps_databaseUrl.map State.frame) fun _ => .get_bind fun _ =>
      .bind (.ofExcept _) fun _ => .bind (keeps_log _ _ _) fun _ => keeps_createEngine _

theorem keeps_openSession (engine : Nat) : Keeps State.frame (openSession engine) :=
  .get_bind fun _ => .bind (keeps_event _) fun _ => .bind (.update fun _ => rfl) fun _ => .pure _

theorem keeps_leaveTransaction (session : Nat) : Keeps State.frame (leaveTransaction session) :=
  .update fun _ => rfl

theorem keeps_closeSession (session : Nat) : Keeps State.frame (closeSession session) :=
  .bind (keeps_event _) fun _ => keeps_leaveTransaction session

theorem keeps_rollBack (session : Nat) : Keeps State.frame (rollBack session) := by
  unfold rollBack
  refine .get_bind fun state => ?_
  split
  · exact .bind (keeps_event _) fun _ => keeps_leaveTransaction session
  · exact .pure ()

theorem keeps_currentSession : Keeps State.frame currentSession := by
  unfold currentSession
  refine .get_bind fun state => ?_
  split
  · exact .throw _
  · split
    · exact .pure _
    · exact .bind (keeps_openSession _) fun _ => .bind (.update fun _ => rfl) fun _ => .pure _

theorem keeps_ownSession : Keeps State.frame ownSession := by
  unfold ownSession
  refine .get_bind fun state => ?_
  dsimp only
  split
  · refine .bind keeps_engine fun _ => .get_bind fun later => ?_
    split
    · exact .throw _
    · exact keeps_openSession _
  · refine .get_bind fun later => ?_
    split
    · exact .throw _
    · exact keeps_openSession _

/-- The session of the innermost request; it is opened when the request has none. -/
def lentSession : Action Nat := do
  match (← get).contexts with
  | [] => throw .outsideContext
  | context :: outer =>
    match context.session with
    | some session => pure session
    | none =>
      let session ← currentSession
      update fun state => { state with
        contexts := { context with session := some session } :: outer }
      pure session

theorem requestSession_eq : requestSession = (do
    if (← get).registry.isNone then
      let _ ← engine
      lentSession
    else lentSession) := rfl

/-- What sessions are taken from: the requests, the engine, its factory and its registry. -/
def leases (state : State) : List Context × Option Nat × Option Nat × Option Registry :=
  (state.contexts, state.engine, state.factory, state.registry)

/-- Whether a session is at hand without anything having to be created. -/
def Ready (given : Bool) (state : State) : Prop :=
  given = true ∨ (state.contexts = [] ∧ state.factory.isSome) ∨
    ∃ context outer, state.contexts = context :: outer ∧ context.session.isSome ∧
      (state.registry.isSome ∨ state.engine.isSome)

theorem ready_of_leases {given : Bool} {before after : State} (ready : Ready given before)
    (same : leases after = leases before) : Ready given after := by
  obtain ⟨contexts, engine, factory, registry⟩ : after.contexts = before.contexts ∧
      after.engine = before.engine ∧ after.factory = before.factory ∧
      after.registry = before.registry := by
    simpa [leases] using same
  rw [Ready, contexts, engine, factory, registry]
  exact ready

/-- A session that is kept is the result of a registry; without a registry there is none. -/
theorem registry_of_currentSession {state later : State} {session : Nat}
    (done : currentSession.runFrom state = (.ok session, later)) : later.registry.isSome := by
  rw [currentSession, runFrom_bind_of_ok (runFrom_get state)] at done
  cases kept : state.registry with
  | none => simp [kept] at done
  | some registry =>
      cases current : registry.current with
      | some session =>
          simp [kept, current] at done
          rw [← done.2, kept]
          rfl
      | none =>
          simp only [kept, current, openSession, event, note, runFrom_bind, runFrom_get,
            runFrom_update, runFrom_pure] at done
          rw [← (Prod.mk.inj done).2]
          rfl

theorem keeps_lentSession : Keeps State.view lentSession := by
  intro state
  rw [lentSession, runFrom_bind_of_ok (runFrom_get state)]
  cases requests : state.contexts with
  | nil => rfl
  | cons context outer =>
      cases held : context.session with
      | some session => simp [held]
      | none =>
          have same := keeps_currentSession state
          simp only [held, runFrom_bind]
          generalize currentSession.runFrom state = done at same
          obtain ⟨fault | session, later⟩ := done
          · exact congrArg Prod.fst same
          · have settings : later.contexts = context :: outer :=
              (congrArg Prod.snd same).trans requests
            have view := congrArg Prod.fst same
            simp [State.frame, State.view, settings] at view ⊢
            exact view

/-- A request keeps the session that it was lent. -/
theorem ready_of_lentSession {state later : State} {session : Nat} (given : Bool)
    (done : lentSession.runFrom state = (.ok session, later))
    (kept : state.registry.isSome ∨ state.engine.isSome) : Ready given later := by
  rw [lentSession, runFrom_bind_of_ok (runFrom_get state)] at done
  cases requests : state.contexts with
  | nil => simp [requests] at done
  | cons context outer =>
      cases held : context.session with
      | some session =>
          simp [requests, held] at done
          rw [← done.2]
          exact .inr (.inr ⟨context, outer, requests, by simp [held], kept⟩)
      | none =>
          simp only [requests, held, runFrom_bind] at done
          cases opened : currentSession.runFrom state with
          | mk result middle =>
              cases result with
              | error fault => simp [opened] at done
              | ok number =>
                  have registered := registry_of_currentSession opened
                  simp only [opened, runFrom_update, runFrom_pure] at done
                  rw [← (Prod.mk.inj done).2]
                  exact .inr (.inr ⟨_, outer, rfl, rfl, .inl registered⟩)

/-- A session for work that is not given one. -/
def opening : Action Nat := do
  if (← get).contexts.isEmpty then ownSession else requestSession

/-- Whether work gets a session at once. -/
def Opens (given : Bool) (state : State) : Prop :=
  given = true ∨ ∃ session later, opening.runFrom state = (.ok session, later)

/-- Whether work gets a session, whatever is logged before. -/
def CanOpen (given : Bool) (state : State) : Prop :=
  ∀ entries, Opens given (state.logged entries)

theorem keeps_requestSession : Keeps State.view requestSession := by
  rw [requestSession_eq]
  refine .get_bind fun state => ?_
  split
  · exact .bind (keeps_engine.map Prod.fst) fun _ => keeps_lentSession
  · exact keeps_lentSession

theorem keeps_opening : Keeps State.view opening := by
  unfold opening
  refine .get_bind fun state => ?_
  split
  · exact keeps_ownSession.map Prod.fst
  · exact keeps_requestSession

theorem isSome_of_engine {state later : State} {number : Nat}
    (done : engine.runFrom state = (.ok number, later)) : later.engine.isSome := by
  rw [engine, runFrom_bind_of_ok (runFrom_get state)] at done
  cases there : state.engine with
  | some number =>
      simp only [there, runFrom_pure] at done
      rw [← (Prod.mk.inj done).2, there]
      rfl
  | none =>
      simp only [there] at done
      obtain ⟨_, _, _, done⟩ := exists_of_runFrom_bind done
      obtain ⟨_, _, _, done⟩ := exists_of_runFrom_bind done
      obtain ⟨_, _, _, done⟩ := exists_of_runFrom_bind done
      obtain ⟨_, _, _, done⟩ := exists_of_runFrom_bind done
      simp only [createEngine, event, note, runFrom_bind, runFrom_get, runFrom_update,
        runFrom_pure] at done
      rw [← (Prod.mk.inj done).2]
      rfl

/-- A session of the engine for new sessions. -/
def factorySession : Action Nat := do
  match (← get).factory with
  | none => throw .outsideContext
  | some engine => openSession engine

theorem ownSession_eq : ownSession = (do
    if (← get).factory.isNone then
      let _ ← engine
      factorySession
    else factorySession) := rfl

theorem isSome_of_factorySession {state later : State} {session : Nat}
    (done : factorySession.runFrom state = (.ok session, later)) : later.factory.isSome := by
  rw [factorySession, runFrom_bind_of_ok (runFrom_get state)] at done
  cases made : state.factory with
  | none => simp [made] at done
  | some engine =>
      simp only [made, openSession, event, note, runFrom_bind, runFrom_get, runFrom_update,
        runFrom_pure] at done
      rw [← (Prod.mk.inj done).2]
      rfl

/-- A session of its own comes from the engine for new sessions, which is made before where there
is none. -/
theorem factorySession_of_ownSession {state later : State} {session : Nat}
    (done : ownSession.runFrom state = (.ok session, later)) :
    ∃ middle, factorySession.runFrom middle = (.ok session, later) := by
  rw [ownSession, runFrom_bind_of_ok (runFrom_get state)] at done
  split at done
  · obtain ⟨_, middle, _, done⟩ := exists_of_runFrom_bind done
    exact ⟨middle, done⟩
  · exact ⟨state, done⟩

/-- A session is at hand once one was opened. -/
theorem ready_of_opening {state later : State} {session : Nat} (given : Bool)
    (done : opening.runFrom state = (.ok session, later)) : Ready given later := by
  rw [opening, runFrom_bind_of_ok (runFrom_get state)] at done
  split at done
  · -- A session of its own.
    next alone =>
      have requests : state.contexts = [] := List.isEmpty_iff.mp alone
      have contexts : later.contexts = [] := by
        have same := congrArg Prod.snd (keeps_ownSession state)
        rw [done] at same
        exact same.trans requests
      obtain ⟨middle, opened⟩ := factorySession_of_ownSession done
      exact .inr (.inl ⟨contexts, isSome_of_factorySession opened⟩)
  · -- The session of the running request.
    rw [requestSession_eq, runFrom_bind_of_ok (runFrom_get state)] at done
    split at done
    · obtain ⟨_, middle, found, done⟩ := exists_of_runFrom_bind done
      exact ready_of_lentSession given done (.inr (isSome_of_engine found))
    · next there =>
        have kept : state.registry.isSome := Option.isSome_iff_ne_none.mpr (by simpa using there)
        exact ready_of_lentSession given done (.inl kept)

theorem openSession_runFrom (engine : Nat) (state : State) :
    ∃ later, (openSession engine).runFrom state = (.ok (state.sessionCount + 1), later) ∧
      leases later = leases state :=
  ⟨_, rfl, rfl⟩

theorem lentSession_runFrom {state : State} {context : Context} {outer : List Context}
    {session : Nat} (requests : state.contexts = context :: outer)
    (held : context.session = some session) : lentSession.runFrom state = (.ok session, state) := by
  rw [lentSession, runFrom_bind_of_ok (runFrom_get state)]
  simp only [requests, held, runFrom_pure]

theorem opens_of_ready {given : Bool} {state : State} (ready : Ready given state) :
    Opens given state := by
  rcases ready with given | ⟨requests, made⟩ | ⟨context, outer, requests, held, there⟩
  · exact .inl given
  · obtain ⟨engine, factory⟩ := Option.isSome_iff_exists.mp made
    obtain ⟨later, opened, _⟩ := openSession_runFrom engine state
    refine .inr ⟨state.sessionCount + 1, later, ?_⟩
    rw [opening, runFrom_bind_of_ok (runFrom_get state)]
    simp only [requests, List.isEmpty_nil, ↓reduceIte]
    rw [ownSession, runFrom_bind_of_ok (runFrom_get state)]
    simp only [factory, Option.isNone_some, Bool.false_eq_true, ↓reduceIte]
    rw [runFrom_bind_of_ok (runFrom_get state)]
    simp only [factory, opened]
  · obtain ⟨session, holds⟩ := Option.isSome_iff_exists.mp held
    have lent := lentSession_runFrom requests holds
    refine .inr ⟨session, state, ?_⟩
    rw [opening, runFrom_bind_of_ok (runFrom_get state)]
    simp only [requests, List.isEmpty_cons, Bool.false_eq_true, ↓reduceIte]
    rw [requestSession_eq, runFrom_bind_of_ok (runFrom_get state)]
    split
    · next absent =>
        obtain ⟨number, made⟩ : ∃ number, state.engine = some number := by
          rw [← Option.isSome_iff_exists]
          simpa [Option.isNone_iff_eq_none.mp absent] using there
        have found : engine.runFrom state = (.ok number, state) := by
          rw [engine, runFrom_bind_of_ok (runFrom_get state)]
          simp only [made, runFrom_pure]
        rw [runFrom_bind_of_ok found, lent]
    · exact lent

/-- A session that is at hand can be had. -/
theorem canOpen_of_ready {given : Bool} {state : State} (ready : Ready given state) :
    CanOpen given state :=
  fun _ => opens_of_ready (ready_of_leases ready rfl)

theorem keeps_leases_rollBack (session : Nat) : Keeps leases (rollBack session) := by
  unfold rollBack
  refine .get_bind fun state => ?_
  split
  · exact .bind (keeps_note fun _ => rfl) fun _ => .update fun _ => rfl
  · exact .pure ()

theorem rollBack_ok (session : Nat) (state : State) :
    ((rollBack session).runFrom state).1 = .ok () := by
  rw [rollBack, runFrom_bind_of_ok (runFrom_get state)]
  split <;> rfl

/-- Taking back a transaction changes nothing of what the work has come to. -/
theorem guarded_runFrom (session : Nat) (work : Handle → Action α) (state : State) :
    ∃ later, (guarded session work).runFrom state =
        (((work (.numbered session)).runFrom state).1, later) ∧
      later.view = ((work (.numbered session)).runFrom state).2.view ∧
      leases later = leases ((work (.numbered session)).runFrom state).2 := by
  rw [guarded, runFrom_bind_of_ok (runFrom_attempt _ state)]
  generalize (work (.numbered session)).runFrom state = done
  obtain ⟨fault | result, middle⟩ := done
  · have finished := rollBack_ok session middle
    have view := congrArg Prod.fst (keeps_rollBack session middle)
    have leased := keeps_leases_rollBack session middle
    have taken : (rollBack session).runFrom middle =
        (.ok (), ((rollBack session).runFrom middle).2) := Prod.ext finished rfl
    refine ⟨((rollBack session).runFrom middle).2, ?_, view, leased⟩
    rw [runFrom_bind_of_ok taken, runFrom_throw]
  · exact ⟨middle, rfl, rfl, rfl⟩

theorem keeps_leases_closeSession (session : Nat) : Keeps leases (closeSession session) :=
  .bind (keeps_note fun _ => rfl) fun _ => .update fun _ => rfl

/-- Work that is not given a session begins with opening one; the first of two ways to go on closes
it again. -/
theorem withSession_eq (work : Handle → Action α) (state : State) :
    ∃ next : Nat → Action α, (withSession work).runFrom state = (opening >>= next).runFrom state ∧
      ∀ session, next session = guarded session work ∨ next session = (do
        let outcome ← attempt (guarded session work)
        closeSession session
        ofExcept outcome) := by
  by_cases alone : state.contexts.isEmpty
  · refine ⟨fun session => do
      let outcome ← attempt (guarded session work)
      closeSession session
      ofExcept outcome, ?_, fun session => .inr rfl⟩
    have first : opening.runFrom state = ownSession.runFrom state := by
      rw [opening, runFrom_bind_of_ok (runFrom_get state), if_pos alone]
    rw [withSession, runFrom_bind_of_ok (runFrom_get state), if_pos alone]
    rw [runFrom_bind, runFrom_bind, first]
  · refine ⟨fun session => guarded session work, ?_, fun session => .inl rfl⟩
    have first : opening.runFrom state = requestSession.runFrom state := by
      rw [opening, runFrom_bind_of_ok (runFrom_get state), if_neg alone]
    rw [withSession, runFrom_bind_of_ok (runFrom_get state), if_neg alone]
    rw [runFrom_bind, runFrom_bind, first]

/-- Closing a session changes nothing of what the work has come to. -/
theorem closing_runFrom (session : Nat) (work : Action α) (state : State) :
    ∃ later, (do
        let outcome ← attempt work
        closeSession session
        ofExcept outcome : Action α).runFrom state = ((work.runFrom state).1, later) ∧
      later.view = (work.runFrom state).2.view ∧
      leases later = leases (work.runFrom state).2 := by
  refine ⟨((closeSession session).runFrom (work.runFrom state).2).2, ?_, ?_, ?_⟩
  · have closed : (closeSession session).runFrom (work.runFrom state).2 =
        (.ok (), ((closeSession session).runFrom (work.runFrom state).2).2) := rfl
    rw [runFrom_bind_of_ok (runFrom_attempt work state), runFrom_bind_of_ok closed,
      runFrom_ofExcept]
  · exact congrArg Prod.fst (keeps_closeSession session _)
  · exact keeps_leases_closeSession session _

/-- Work fails for want of a session, or it runs in one: what it has come to is then the outcome,
and after it a session is at hand. -/
theorem inSession_cases (given : Bool) (work : Handle → Action α) (state : State)
    (keeps : ∀ handle, Keeps leases (work handle)) :
    (∃ fault later, (inSession given work).runFrom state = (.error fault, later) ∧
      later.view = state.view ∧ ¬ Opens given state) ∨
    ∃ handle opened later, opened.view = state.view ∧
      (inSession given work).runFrom state = (((work handle).runFrom opened).1, later) ∧
      later.view = ((work handle).runFrom opened).2.view ∧ Ready given later := by
  cases given with
  | true => exact .inr ⟨.given, state, _, rfl, rfl, rfl, .inl rfl⟩
  | false =>
      obtain ⟨next, same, ways⟩ := withSession_eq work state
      have kept := keeps_opening state
      rw [inSession, if_neg Bool.false_ne_true, same]
      cases first : opening.runFrom state with
      | mk result opened =>
          rw [first] at kept
          cases result with
          | error fault =>
              refine .inl ⟨fault, opened, runFrom_bind_of_error first, kept, ?_⟩
              rintro (absurdity | ⟨session, later, opens⟩)
              · cases absurdity
              · rw [first] at opens
                cases opens
          | ok session =>
              rw [runFrom_bind_of_ok first]
              have ready := ready_of_leases (ready_of_opening false first)
                (keeps (.numbered session) opened)
              obtain ⟨middle, guards, view, leased⟩ := guarded_runFrom session work opened
              rcases ways session with way | way
              · refine .inr ⟨.numbered session, opened, middle, kept, ?_, view,
                  ready_of_leases ready leased⟩
                rw [way, guards]
              · obtain ⟨later, closes, closedView, closedLeases⟩ :=
                  closing_runFrom session (guarded session work) opened
                rw [guards] at closes closedView closedLeases
                refine .inr ⟨.numbered session, opened, later, kept, ?_, closedView.trans view,
                  ready_of_leases ready (closedLeases.trans leased)⟩
                rw [way, closes]

end Action

end AuditTrail.Service
