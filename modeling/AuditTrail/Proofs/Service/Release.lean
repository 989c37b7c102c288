import AuditTrail.Proofs.Service.Books
import AuditTrail.Proofs.Service.Context

/-!
# Releasing sessions

Work outside a request has a session of its own, which is closed when the work ends; all work of a
request shares one session, which is closed when the request ends.  So no session is left open,
whatever fails in between.
-/

namespace AuditTrail.Service

/-- The session that the registry keeps. -/
def State.current (state : State) : Option Nat := state.registry.bind Registry.current

/-- Where the use of sessions stands: the books, the running requests and the session that is
kept.  A registry comes with an engine. -/
structure State.IsAt (state : State) (books : Books) (contexts : List Context)
    (current : Option Nat) : Prop where
  books : state.books = books
  contexts : state.contexts = contexts
  current : state.current = current
  engined : state.registry.isSome → state.engine.isSome

variable {α β : Type} {books : Books} {contexts : List Context} {current : Option Nat}
  {settings : List (String × Value)} {state later : State} {session : Nat}

theorem State.IsAt.of_account (stands : state.IsAt books contexts current) {after : Books}
    (account : later.account = (after, Action.leases state)) :
    later.IsAt after contexts current := by
  obtain ⟨same, leased⟩ := Prod.mk.inj account
  obtain ⟨requests, engine, factory, registry⟩ : later.contexts = state.contexts ∧
      later.engine = state.engine ∧ later.factory = state.factory ∧
      later.registry = state.registry := by
    simpa [Action.leases] using leased
  constructor
  · exact same
  · exact requests.trans stands.contexts
  · rw [State.current, registry]
    exact stands.current
  · rw [registry, engine]
    exact stands.engined

/-- A request ends that was lent no session. -/
theorem State.IsAt.released_free (stands : state.IsAt books contexts none) :
    state.released.IsAt books contexts.tail none := by
  have ended : state.released = { state with contexts := state.contexts.tail } := by
    have free := stands.current
    rw [State.current] at free
    rw [State.released]
    split
    · next kept =>
        rw [kept] at free
        cases free
    · rfl
  rw [ended]
  exact ⟨stands.books, congrArg List.tail stands.contexts, stands.current, stands.engined⟩

/-- A request ends, and the session that it was lent is closed. -/
theorem State.IsAt.released_lent (stands : state.IsAt books contexts (some session)) :
    state.released.IsAt (books.closed session) contexts.tail none := by
  obtain ⟨⟨engine, current⟩, kept, rfl⟩ : ∃ registry, state.registry = some registry ∧
      registry.current = some session := by
    have held := stands.current
    rwa [State.current, Option.bind_eq_some_iff] at held
  have ended : state.released = { state.closed session with
      contexts := state.contexts.tail
      registry := some ⟨engine, none⟩ } := by
    rw [State.released, kept]
  rw [ended]
  refine ⟨?_, congrArg List.tail stands.contexts, rfl, fun _ => stands.engined (by rw [kept]; rfl)⟩
  rw [← stands.books]
  simp [State.books, State.closed, Books.closed, Event.isOfSession]

namespace Action

/-- Finds an engine, with another way of creating one from its options. -/
def engineWith (create : EngineOptions → Action Nat) : Action Nat := do
  match (← get).engine with
  | some number => pure number
  | none =>
    let url ← databaseUrl
    let options ← ofExcept (engineOptions (← get).environment url)
    log .info .connection (engineMessage options)
    create options

theorem engine_eq : engine = engineWith createEngine := rfl

theorem engineWith_cases (create : EngineOptions → Action Nat) (state : State) :
    (∃ number, state.engine = some number ∧
      (engineWith create).runFrom state = (.ok number, state)) ∨
    (state.engine = none ∧ ∃ middle, middle.quiet = state.quiet ∧
      ((∃ fault, (engineWith create).runFrom state = (.error fault, middle)) ∨
        ∃ options, (engineWith create).runFrom state = (create options).runFrom middle)) := by
  rw [engineWith, runFrom_bind_of_ok (runFrom_get state)]
  cases there : state.engine with
  | some number => exact .inl ⟨number, rfl, rfl⟩
  | none =>
      right
      refine ⟨rfl, ?_⟩
      have searched := keeps_databaseUrl state
      dsimp only
      rw [runFrom_bind]
      generalize databaseUrl.runFrom state = done at searched
      obtain ⟨fault | url, middle⟩ := done
      · exact ⟨middle, searched, .inl ⟨fault, rfl⟩⟩
      · dsimp only
        rw [runFrom_bind_of_ok (runFrom_get middle), runFrom_bind, runFrom_ofExcept]
        cases engineOptions middle.environment url with
        | error fault => exact ⟨middle, searched, .inl ⟨fault, rfl⟩⟩
        | ok options =>
            dsimp only
            rw [runFrom_bind_of_ok (log_runFrom _ _ _ middle)]
            generalize middle.journal.entries ++ _ = entries
            exact ⟨middle.logged entries, searched, .inr ⟨options, rfl⟩⟩

/-- The engine is there, or it is created after the database has been looked for. -/
theorem engine_cases (state : State) :
    (∃ number, engine.runFrom state = (.ok number, state)) ∨
    (state.engine = none ∧ ∃ middle, middle.quiet = state.quiet ∧
      ((∃ fault, engine.runFrom state = (.error fault, middle)) ∨
        ∃ options, engine.runFrom state = (createEngine options).runFrom middle)) := by
  rw [engine_eq]
  exact (engineWith_cases createEngine state).imp_left fun ⟨number, _, found⟩ => ⟨number, found⟩

theorem createEngine_runFrom (options : EngineOptions) (state : State) :
    (createEngine options).runFrom state = (.ok (state.engineCount + 1),
      { state with
        engineCount := state.engineCount + 1
        engine := some (state.engineCount + 1)
        factory := some (state.engineCount + 1)
        registry := some ⟨state.engineCount + 1, none⟩
        journal := { state.journal with
          events := state.journal.events ++
            [.engineCreated (state.engineCount + 1) options] } }) := rfl

/-- Finding an engine opens no session, and forgets none where none is kept. -/
theorem engine_isAt (stands : state.IsAt books contexts none) :
    ∃ outcome later, engine.runFrom state = (outcome, later) ∧ later.view = state.view ∧
      later.IsAt books contexts none := by
  rcases engine_cases state with ⟨number, found⟩ | ⟨absent, middle, same, ends⟩
  · exact ⟨_, state, found, rfl, stands⟩
  · have view : middle.quiet.view = state.quiet.view := congrArg State.view same
    have account : middle.quiet.account = state.quiet.account := congrArg State.account same
    have before : middle.IsAt books contexts none :=
      stands.of_account (account.trans (congrArg (·, leases state) stands.books))
    rcases ends with ⟨fault, failed⟩ | ⟨options, created⟩
    · exact ⟨_, middle, failed, view, before⟩
    · refine ⟨_, _, created.trans (createEngine_runFrom options middle), view, ?_,
        before.contexts, rfl, fun _ => rfl⟩
      rw [← before.books]
      simp [State.books, Event.isOfSession]

theorem openSession_isAt (engine : Nat) (stands : state.IsAt books contexts current) :
    ∃ later, (openSession engine).runFrom state = (.ok (books.count + 1), later) ∧
      later.view = state.view ∧ leases later = leases state ∧
      later.IsAt (books.opened engine) contexts current := by
  have count : state.sessionCount = books.count := congrArg Books.count stands.books
  have opens : (openSession engine).runFrom state = (.ok (state.sessionCount + 1),
      { state with
        sessionCount := state.sessionCount + 1
        journal := { state.journal with
          events := state.journal.events ++ [.opened (state.sessionCount + 1) engine] } }) := rfl
  rw [count] at opens
  refine ⟨_, opens, rfl, rfl, stands.of_account (Prod.ext ?_ rfl)⟩
  rw [← stands.books]
  simp [State.account, State.books, Event.isOfSession, Books.opened]

theorem factorySession_isAt (stands : state.IsAt books contexts current) :
    ∃ outcome later, factorySession.runFrom state = (outcome, later) ∧ later.view = state.view ∧
      ((∃ fault, outcome = .error fault ∧ later.IsAt books contexts current) ∨
        ∃ engine, outcome = .ok (books.count + 1) ∧
          later.IsAt (books.opened engine) contexts current) := by
  rw [factorySession, runFrom_bind_of_ok (runFrom_get state)]
  cases state.factory with
  | none => exact ⟨_, state, rfl, rfl, .inl ⟨_, rfl, stands⟩⟩
  | some engine =>
      obtain ⟨later, opens, view, _, opened⟩ := openSession_isAt engine stands
      exact ⟨_, later, opens, view, .inr ⟨engine, rfl, opened⟩⟩

/-- Outside a request a new session is opened, if an engine can be had. -/
theorem ownSession_isAt (stands : state.IsAt books contexts none) :
    ∃ outcome later, ownSession.runFrom state = (outcome, later) ∧ later.view = state.view ∧
      ((∃ fault, outcome = .error fault ∧ later.IsAt books contexts none) ∨
        ∃ engine, outcome = .ok (books.count + 1) ∧
          later.IsAt (books.opened engine) contexts none) := by
  rw [ownSession_eq, runFrom_bind_of_ok (runFrom_get state)]
  split
  · obtain ⟨found, middle, finds, same, before⟩ := engine_isAt stands
    rw [runFrom_bind, finds]
    cases found with
    | error fault => exact ⟨_, middle, rfl, same, .inl ⟨fault, rfl, before⟩⟩
    | ok number =>
        obtain ⟨outcome, later, opens, view, ends⟩ := factorySession_isAt before
        exact ⟨outcome, later, opens, view.trans same, ends⟩
  · exact factorySession_isAt stands

theorem lentSession_isAt (stands : state.IsAt books [⟨none, settings⟩] none) :
    ∃ outcome later, lentSession.runFrom state = (outcome, later) ∧ later.view = state.view ∧
      ((∃ fault, outcome = .error fault ∧ later.IsAt books [⟨none, settings⟩] none) ∨
        ∃ engine, outcome = .ok (books.count + 1) ∧ later.IsAt (books.opened engine)
          [⟨some (books.count + 1), settings⟩] (some (books.count + 1))) := by
  rw [lentSession, runFrom_bind_of_ok (runFrom_get state), stands.contexts]
  dsimp only
  rw [currentSession, runFrom_bind, runFrom_bind_of_ok (runFrom_get state)]
  cases kept : state.registry with
  | none => exact ⟨_, state, rfl, rfl, .inl ⟨_, rfl, stands⟩⟩
  | some registry =>
      have free : registry.current = none := by
        have current := stands.current
        rwa [State.current, kept] at current
      obtain ⟨later, opens, view, leased, opened⟩ := openSession_isAt registry.engine stands
      have requests : later.view.settings = [settings] := by
        rw [view]
        exact congrArg (List.map Context.settings) stands.contexts
      have engined : later.engine.isSome := by
        rw [show later.engine = state.engine from congrArg (·.2.1) leased]
        exact stands.engined (by rw [kept]; rfl)
      dsimp only
      rw [free]
      dsimp only
      rw [runFrom_bind_of_ok opens]
      refine ⟨_, _, rfl, ?_, .inr ⟨registry.engine, rfl, opened.books, rfl, rfl, fun _ => engined⟩⟩
      rw [← view]
      change { later.view with settings := [settings] } = later.view
      rw [← requests]

/-- A request is lent a new session, if an engine can be had. -/
theorem requestSession_isAt (stands : state.IsAt books [⟨none, settings⟩] none) :
    ∃ outcome later, requestSession.runFrom state = (outcome, later) ∧ later.view = state.view ∧
      ((∃ fault, outcome = .error fault ∧ later.IsAt books [⟨none, settings⟩] none) ∨
        ∃ engine, outcome = .ok (books.count + 1) ∧ later.IsAt (books.opened engine)
          [⟨some (books.count + 1), settings⟩] (some (books.count + 1))) := by
  rw [requestSession_eq, runFrom_bind_of_ok (runFrom_get state)]
  split
  · obtain ⟨found, middle, finds, same, before⟩ := engine_isAt stands
    rw [runFrom_bind, finds]
    cases found with
    | error fault => exact ⟨_, middle, rfl, same, .inl ⟨fault, rfl, before⟩⟩
    | ok number =>
        obtain ⟨outcome, later, opens, view, ends⟩ := lentSession_isAt before
        exact ⟨outcome, later, opens, view.trans same, ends⟩
  · exact lentSession_isAt stands

/-- The session that a request was lent is lent to it again. -/
theorem requestSession_of_lent
    (stands : state.IsAt books [⟨some session, settings⟩] (some session)) :
    requestSession.runFrom state = (.ok session, state) := by
  have kept : state.registry.isNone = false := by
    have current := stands.current
    rw [State.current] at current
    cases registry : state.registry with
    | none =>
        rw [registry] at current
        cases current
    | some registry => rfl
  rw [requestSession_eq, runFrom_bind_of_ok (runFrom_get state), kept,
    if_neg Bool.false_ne_true]
  exact lentSession_runFrom stands.contexts rfl

theorem rollBack_isAt (session : Nat) (stands : state.IsAt books contexts current) :
    ∃ later, (rollBack session).runFrom state = (.ok (), later) ∧ later.view = state.view ∧
      later.IsAt (books.rolledBack session) contexts current := by
  have busy : state.inTransaction = books.busy := congrArg Books.busy stands.books
  rw [rollBack, runFrom_bind_of_ok (runFrom_get state)]
  by_cases inside : session ∈ books.busy
  · have contained : state.inTransaction.contains session = true := by simpa [busy] using inside
    rw [if_pos contained]
    refine ⟨_, rfl, rfl, stands.of_account (Prod.ext ?_ rfl)⟩
    rw [Books.rolledBack, if_pos inside, ← stands.books]
    simp [State.account, State.books, Event.isOfSession]
  · have outside : ¬ state.inTransaction.contains session = true := by simpa [busy] using inside
    rw [if_neg outside]
    refine ⟨_, rfl, rfl, ?_⟩
    rwa [Books.rolledBack, if_neg inside]

theorem closeSession_isAt (session : Nat) (stands : state.IsAt books contexts current) :
    ∃ later, (closeSession session).runFrom state = (.ok (), later) ∧ later.view = state.view ∧
      later.IsAt (books.closed session) contexts current := by
  refine ⟨_, rfl, rfl, stands.of_account (Prod.ext ?_ rfl)⟩
  rw [← stands.books]
  simp [State.account, State.books, Event.isOfSession, Books.closed]

/-- Whether an outcome is a fault. -/
def isFault : Except Fault α → Bool
  | .ok _ => false
  | .error _ => true

/-- Guarded work in a session ends as the work does; where it fails, its transaction is taken
back. -/
theorem guarded_isAt {work : Handle → Action α}
    (confined : IsConfined session (work (.numbered session)))
    (stands : state.IsAt books contexts current) :
    ∃ outcome count later, outcome = ((work (.numbered session)).runFrom state).1 ∧
      (guarded session work).runFrom state = (outcome, later) ∧
      later.IsAt (books.visited session count (isFault outcome)) contexts current := by
  obtain ⟨count, used⟩ := confined state
  rw [stands.books] at used
  have worked := stands.of_account used
  rw [guarded, runFrom_bind_of_ok (runFrom_attempt _ state)]
  generalize (work (.numbered session)).runFrom state = done at worked
  obtain ⟨fault | result, middle⟩ := done
  · obtain ⟨later, takes, _, taken⟩ := rollBack_isAt session worked
    refine ⟨.error fault, count, later, rfl, ?_, taken⟩
    exact (runFrom_bind_of_ok takes).trans rfl
  · exact ⟨.ok result, count, middle, rfl, rfl, worked⟩

theorem not_opens_of_error {fault : Fault}
    (failed : opening.runFrom state = (.error fault, later)) : ¬ Opens false state := by
  rintro (absurdity | ⟨session, other, opens⟩)
  · cases absurdity
  · rw [failed] at opens
    cases opens

/-- Work outside a request gets no session, or it has one of its own that is closed when it
ends. -/
theorem withSession_own {work : Handle → Action α}
    (confined : ∀ session, IsConfined session (work (.numbered session)))
    (stands : state.IsAt books [] none) :
    ∃ outcome later, (withSession work).runFrom state = (outcome, later) ∧
      ((¬ Opens false state ∧ (∃ fault, outcome = .error fault) ∧ later.IsAt books [] none) ∨
        ∃ engine count opened, opened.view = state.view ∧
          outcome = ((work (.numbered (books.count + 1))).runFrom opened).1 ∧
          later.IsAt (((books.opened engine).visited (books.count + 1) count
            (isFault outcome)).closed (books.count + 1)) [] none) := by
  have alone : state.contexts.isEmpty = true := by rw [stands.contexts]; rfl
  obtain ⟨found, opened, opens, view, ends⟩ := ownSession_isAt stands
  have first : opening.runFrom state = (found, opened) := by
    rw [opening, runFrom_bind_of_ok (runFrom_get state), if_pos alone, opens]
  rw [withSession, runFrom_bind_of_ok (runFrom_get state), if_pos alone, runFrom_bind, opens]
  rcases ends with ⟨fault, rfl, closed⟩ | ⟨engine, rfl, own⟩
  · exact ⟨.error fault, opened, rfl, .inl ⟨not_opens_of_error first, ⟨fault, rfl⟩, closed⟩⟩
  · obtain ⟨outcome, count, middle, works, guards, visited⟩ :=
      guarded_isAt (confined (books.count + 1)) own
    obtain ⟨later, closes, _, closed⟩ := closeSession_isAt (books.count + 1) visited
    dsimp only
    rw [runFrom_bind_of_ok (runFrom_attempt _ opened), guards, runFrom_bind_of_ok closes,
      runFrom_ofExcept]
    exact ⟨outcome, later, rfl, .inr ⟨engine, count, opened, view, works, closed⟩⟩

/-- Work of a request that has no session yet gets none, or the request is lent one. -/
theorem withSession_fresh {work : Handle → Action α}
    (confined : ∀ session, IsConfined session (work (.numbered session)))
    (stands : state.IsAt books [⟨none, settings⟩] none) :
    ∃ outcome later, (withSession work).runFrom state = (outcome, later) ∧
      ((¬ Opens false state ∧ (∃ fault, outcome = .error fault) ∧
          later.IsAt books [⟨none, settings⟩] none) ∨
        ∃ engine count opened, opened.view = state.view ∧
          outcome = ((work (.numbered (books.count + 1))).runFrom opened).1 ∧
          opened.books = books.opened engine ∧
          later.IsAt ((books.opened engine).visited (books.count + 1) count (isFault outcome))
            [⟨some (books.count + 1), settings⟩] (some (books.count + 1))) := by
  have running : ¬ state.contexts.isEmpty = true := by rw [stands.contexts]; simp
  obtain ⟨found, opened, opens, view, ends⟩ := requestSession_isAt stands
  have first : opening.runFrom state = (found, opened) := by
    rw [opening, runFrom_bind_of_ok (runFrom_get state), if_neg running, opens]
  rw [withSession, runFrom_bind_of_ok (runFrom_get state), if_neg running, runFrom_bind, opens]
  rcases ends with ⟨fault, rfl, closed⟩ | ⟨engine, rfl, lent⟩
  · exact ⟨.error fault, opened, rfl, .inl ⟨not_opens_of_error first, ⟨fault, rfl⟩, closed⟩⟩
  · obtain ⟨outcome, count, later, works, guards, visited⟩ :=
      guarded_isAt (confined (books.count + 1)) lent
    exact ⟨outcome, later, guards,
      .inr ⟨engine, count, opened, view, works, lent.books, visited⟩⟩

/-- Further work of a request runs in the session that the request was lent. -/
theorem withSession_lent {work : Handle → Action α}
    (confined : IsConfined session (work (.numbered session)))
    (stands : state.IsAt books [⟨some session, settings⟩] (some session)) :
    ∃ outcome count later, outcome = ((work (.numbered session)).runFrom state).1 ∧
      (withSession work).runFrom state = (outcome, later) ∧
      later.IsAt (books.visited session count (isFault outcome)) [⟨some session, settings⟩]
        (some session) := by
  have running : ¬ state.contexts.isEmpty = true := by rw [stands.contexts]; simp
  rw [withSession, runFrom_bind_of_ok (runFrom_get state), if_neg running,
    runFrom_bind_of_ok (requestSession_of_lent stands)]
  exact guarded_isAt confined stands

end Action

end AuditTrail.Service
