import AuditTrail.Proofs.Connection.Locator
import AuditTrail.Proofs.Service.Window

/-!
# The slots of engines

The service holds an engine, a factory of sessions and a registry of sessions, or none of the three.
What is done with engines and sessions leaves these slots as they are, or fills all of them where
they are empty; giving up the engine empties all of them.
-/

namespace AuditTrail.Service

/-- A phase in the life of an engine. -/
inductive Phase where
  | created (engine : Nat)
  | disposed (engine : Nat)
deriving DecidableEq, Repr

/-- The phase that an event is. -/
def Event.phase? : Event → Option Phase
  | engineCreated number _ => some (.created number)
  | disposed number => some (.disposed number)
  | _ => none

/-- What is held of engines: the engine, the engines of the factory and of the registry, the number
of engines so far, and their phases. -/
structure Slots where
  engine : Option Nat
  factory : Option Nat
  registry : Option Nat
  count : Nat
  phases : List Phase

/-- The slots of a state. -/
def State.slots (state : State) : Slots where
  engine := state.engine
  factory := state.factory
  registry := state.registry.map Registry.engine
  count := state.engineCount
  phases := state.journal.events.filterMap Event.phase?

/-- The phases of some engines, each of them disposed of before the next one is created. -/
def phasesUpTo (count : Nat) : List Phase :=
  (List.range count).flatMap fun number => [.created (number + 1), .disposed (number + 1)]

theorem phasesUpTo_succ (count : Nat) :
    phasesUpTo (count + 1) = phasesUpTo count ++ [.created (count + 1), .disposed (count + 1)] := by
  simp [phasesUpTo, List.range_succ]

namespace Slots

variable {slots middle later : Slots}

/-- The slots after an engine was created. -/
def created (slots : Slots) : Slots where
  engine := some (slots.count + 1)
  factory := some (slots.count + 1)
  registry := some (slots.count + 1)
  count := slots.count + 1
  phases := slots.phases ++ [.created (slots.count + 1)]

/-- The slots after the engine was disposed of. -/
def disposed (slots : Slots) : Slots where
  engine := none
  factory := none
  registry := none
  count := slots.count
  phases := slots.phases ++ slots.engine.toList.map .disposed

/-- Whether all slots have the engine that was created last, or none has one; and whether every
other engine was disposed of before the next one was created. -/
structure IsOrderly (slots : Slots) : Prop where
  factory : slots.factory = slots.engine
  registry : slots.registry = slots.engine
  last : ∀ number, slots.engine = some number → number = slots.count
  phases : slots.phases ++ slots.engine.toList.map .disposed = phasesUpTo slots.count

theorem IsOrderly.created (orderly : slots.IsOrderly) (absent : slots.engine = none) :
    slots.created.IsOrderly where
  factory := rfl
  registry := rfl
  last _ same := (Option.some.inj same).symm
  phases := by
    have before := orderly.phases
    rw [absent] at before
    change slots.phases ++ [.created (slots.count + 1)] ++ [.disposed (slots.count + 1)] = _
    rw [Slots.created, phasesUpTo_succ, ← before]
    simp

theorem IsOrderly.disposed (orderly : slots.IsOrderly) : slots.disposed.IsOrderly where
  factory := rfl
  registry := rfl
  last _ absurdity := nomatch absurdity
  phases := (List.append_nil _).trans orderly.phases

/-- Whether an engine was created in between, where there was none. -/
def Advances (slots later : Slots) : Prop :=
  later = slots ∨ slots.engine = none ∧ later = slots.created

theorem Advances.of_eq (same : later = slots) : slots.Advances later := .inl same

theorem Advances.trans (first : slots.Advances middle) (second : middle.Advances later) :
    slots.Advances later := by
  rcases first with rfl | ⟨absent, rfl⟩
  · exact second
  · rcases second with rfl | ⟨absurdity, -⟩
    · exact .inr ⟨absent, rfl⟩
    · cases absurdity

theorem Advances.engine_eq {number : Nat} (advances : slots.Advances later)
    (there : slots.engine = some number) : later.engine = some number := by
  rcases advances with rfl | ⟨absent, -⟩
  · exact there
  · cases absent.symm.trans there

end Slots

namespace Action

variable {α β : Type}

/-- An action that at most creates an engine, where there is none. -/
def Advances (action : Action α) : Prop :=
  ∀ state : State, state.slots.Advances (action.runFrom state).2.slots

namespace Advances

theorem of_keeps {action : Action α} (kept : Keeps State.slots action) : Advances action :=
  fun state => .of_eq (kept state)

theorem bind {first : Action α} {next : α → Action β} (begun : Advances first)
    (gone : ∀ value, Advances (next value)) : Advances (first >>= next) := by
  intro state
  have middle := begun state
  rw [runFrom_bind]
  generalize first.runFrom state = done at middle
  obtain ⟨fault | value, later⟩ := done
  · exact middle
  · exact middle.trans (gone value later)

/-- A step that begins with looking at the state. -/
theorem get_bind {next : State → Action β} (gone : ∀ state, Advances (next state)) :
    Advances (MonadState.get >>= next) :=
  .bind (.of_keeps .get) gone

theorem attempt {action : Action α} (advances : Advances action) : Advances (attempt action) :=
  advances

end Advances

theorem keeps_slots_event {e : Event} (other : e.phase? = none) : Keeps State.slots (event e) :=
  keeps_note fun state => by simp [State.slots, other]

theorem keeps_slots_openSession (engine : Nat) : Keeps State.slots (openSession engine) :=
  .get_bind fun _ => .bind (keeps_slots_event rfl) fun _ => .bind (.update fun _ => rfl) fun _ =>
    .pure _

theorem keeps_slots_closeSession (session : Nat) : Keeps State.slots (closeSession session) :=
  .bind (keeps_slots_event rfl) fun _ => .update fun _ => rfl

theorem closeSession_runFrom (session : Nat) (state : State) :
    (closeSession session).runFrom state = (.ok (), state.closed session) := rfl

theorem keeps_slots_rollBack (session : Nat) : Keeps State.slots (rollBack session) := by
  unfold rollBack
  refine .get_bind fun state => ?_
  split
  · exact .bind (keeps_slots_event rfl) fun _ => .update fun _ => rfl
  · exact .pure ()

theorem keeps_slots_execute (handle : Handle) (statement : Sql.Statement) :
    Keeps State.slots (execute handle statement) := by
  have asks : Keeps State.slots (ask statement) :=
    .get_bind fun _ => .bind (keeps_note fun _ => rfl) fun _ => .ofExcept _
  cases handle with
  | given => exact asks
  | numbered session =>
      exact .bind (keeps_slots_event rfl) fun _ => .bind (.update fun _ => rfl) fun _ => asks

/-- The registry may keep another session. -/
theorem slots_keeping {state : State} {registry : Registry} (kept : state.registry = some registry)
    (session : Option Nat) :
    State.slots { state with registry := some { registry with current := session } } =
      state.slots := by
  simp [State.slots, kept]

theorem removeCurrent_ok (state : State) :
    ∃ later, removeCurrent.runFrom state = (.ok (), later) ∧ later.slots = state.slots := by
  rw [removeCurrent, runFrom_bind_of_ok (runFrom_get state)]
  cases kept : state.registry with
  | none => exact ⟨state, rfl, rfl⟩
  | some registry =>
      dsimp only
      cases held : registry.current with
      | none => exact ⟨state, rfl, rfl⟩
      | some session =>
          have closed := keeps_slots_closeSession session state
          have still : (state.closed session).registry = some registry := kept
          rw [closeSession_runFrom] at closed
          dsimp only
          rw [runFrom_bind_of_ok (closeSession_runFrom session state)]
          exact ⟨_, rfl, (slots_keeping still none).trans closed⟩

theorem keeps_slots_currentSession : Keeps State.slots currentSession := by
  intro state
  rw [currentSession, runFrom_bind_of_ok (runFrom_get state)]
  cases kept : state.registry with
  | none => rfl
  | some registry =>
      dsimp only
      cases held : registry.current with
      | some session => rfl
      | none =>
          -- The new session belongs to the registry's engine, and the registry stays.
          obtain ⟨later, opens, leased⟩ := openSession_runFrom registry.engine state
          have opened := keeps_slots_openSession registry.engine state
          have still : later.registry = some registry := (congrArg (·.2.2.2) leased).trans kept
          rw [opens] at opened
          dsimp only
          rw [runFrom_bind_of_ok opens]
          exact (slots_keeping still _).trans opened

theorem keeps_slots_lentSession : Keeps State.slots lentSession := by
  unfold lentSession
  refine .get_bind fun state => ?_
  split
  · exact .throw _
  · split
    · exact .pure _
    · exact .bind keeps_slots_currentSession fun _ => .bind (.update fun _ => rfl) fun _ => .pure _

theorem keeps_slots_factorySession : Keeps State.slots factorySession := by
  unfold factorySession
  refine .get_bind fun state => ?_
  split
  · exact .throw _
  · exact keeps_slots_openSession _

theorem slots_of_quiet {state later : State} (same : later.quiet = state.quiet) :
    later.slots = state.slots := by
  have slots : later.quiet.slots = state.quiet.slots := congrArg State.slots same
  exact slots

/-- Finding an engine creates one only where there is none. -/
theorem advances_engine : Advances engine := by
  intro state
  rcases engine_cases state with ⟨number, found⟩ | ⟨absent, middle, same, ends⟩
  · rw [found]
    exact .of_eq rfl
  · have searched := slots_of_quiet same
    rcases ends with ⟨fault, failed⟩ | ⟨options, creates⟩
    · rw [failed]
      exact .of_eq searched
    · rw [creates, createEngine_runFrom]
      refine .inr ⟨absent, ?_⟩
      rw [← searched]
      simp [State.slots, Slots.created, Event.phase?]

/-- An engine whose options are refused is not created. -/
theorem keeps_slots_refused (fault : Fault) :
    Keeps State.slots (engineWith fun _ => throw fault) := by
  intro state
  rcases engineWith_cases (fun _ => throw fault) state with
    ⟨number, -, found⟩ | ⟨-, middle, same, ends⟩
  · rw [found]
  · have searched := slots_of_quiet same
    rcases ends with ⟨trouble, failed⟩ | ⟨options, refuses⟩
    · rw [failed]
      exact searched
    · rw [refuses]
      exact searched

theorem advances_connect : Advances connect := by
  refine .bind advances_engine fun number => .of_keeps ?_
  refine .bind (keeps_slots_event rfl) fun _ => .get_bind fun state => ?_
  split
  · exact .throw _
  · exact .pure ()

theorem advances_requestSession : Advances requestSession := by
  rw [requestSession_eq]
  refine .get_bind fun state => ?_
  split
  · exact .bind advances_engine fun _ => .of_keeps keeps_slots_lentSession
  · exact .of_keeps keeps_slots_lentSession

theorem advances_ownSession : Advances ownSession := by
  rw [ownSession_eq]
  refine .get_bind fun state => ?_
  split
  · exact .bind advances_engine fun _ => .of_keeps keeps_slots_factorySession
  · exact .of_keeps keeps_slots_factorySession

theorem advances_opening : Advances opening := by
  refine .get_bind fun state => ?_
  split
  · exact advances_ownSession
  · exact advances_requestSession

theorem advances_ping : Advances ping := by
  have probes : Keeps State.slots (ask probe) := keeps_slots_execute .given probe
  refine .bind (.attempt (.bind advances_connect fun _ => .of_keeps ?_)) fun outcome => .of_keeps ?_
  · exact .bind probes fun _ => .pure ()
  · cases outcome with
    | ok => exact .pure true
    | error fault => exact .bind (keeps_note fun _ => rfl) fun _ => .pure false

theorem keeps_slots_cleanUp : Keeps State.slots cleanUp := by
  refine .bind (.update fun _ => rfl) fun _ state => ?_
  obtain ⟨later, removed, same⟩ := removeCurrent_ok state
  rw [removed]
  exact same

/-- Giving up the engine empties all slots. -/
theorem slots_dispose (state : State) : (dispose.runFrom state).2.slots = state.slots.disposed := by
  obtain ⟨later, removed, same⟩ := removeCurrent_ok state
  rw [← same, dispose, runFrom_bind_of_ok removed, runFrom_bind_of_ok (runFrom_get later),
    runFrom_bind_of_ok (runFrom_update _ later)]
  cases held : later.engine with
  | none => simp [State.slots, Slots.disposed, held]
  | some number => simp [State.slots, Slots.disposed, held, event, note, Event.phase?]

/-- Ends work in a session: if it has failed its transaction is taken back, and a session of its own
is closed. -/
def closeScope (session : Nat) (own failed : Bool) : Action Unit := do
  let _ ← (if failed then rollBack session else pure () : Action Unit)
  if own then closeSession session else pure ()

theorem keeps_slots_closeScope (session : Nat) (own failed : Bool) :
    Keeps State.slots (closeScope session own failed) := by
  refine .bind ?_ fun _ => ?_
  · cases failed with
    | false => exact .pure ()
    | true => exact keeps_slots_rollBack session
  · cases own with
    | false => exact .pure ()
    | true => exact keeps_slots_closeSession session

theorem rollBack_runFrom (session : Nat) (state : State) :
    (rollBack session).runFrom state = (.ok (), ((rollBack session).runFrom state).2) :=
  Prod.ext (rollBack_ok session state) rfl

theorem closeScope_runFrom (session : Nat) (own failed : Bool) (state : State) :
    (closeScope session own failed).runFrom state =
      (.ok (), ((closeScope session own failed).runFrom state).2) := by
  rw [closeScope]
  cases failed with
  | false => cases own <;> rfl
  | true =>
      rw [if_pos rfl, runFrom_bind_of_ok (rollBack_runFrom session state)]
      cases own <;> rfl

/-- A session of its own is closed behind everything else. -/
theorem closeScope_own (session : Nat) (failed : Bool) (state : State) :
    (closeScope session true failed).runFrom state =
      (closeSession session).runFrom ((closeScope session false failed).runFrom state).2 := by
  rw [closeScope, closeScope]
  cases failed with
  | false => rfl
  | true =>
      rw [if_pos rfl, runFrom_bind_of_ok (rollBack_runFrom session state),
        runFrom_bind_of_ok (rollBack_runFrom session state)]
      rfl

/-- Work in a scope: the work itself, and then the end of the scope. -/
def scope (session : Nat) (own : Bool) (work : Handle → Action α) : Action α := do
  let outcome ← attempt (work (.numbered session))
  closeScope session own (isFault outcome)
  ofExcept outcome

theorem scope_runFrom (session : Nat) (own : Bool) (work : Handle → Action α) (state : State) :
    (scope session own work).runFrom state = (((work (.numbered session)).runFrom state).1,
      ((closeScope session own (isFault ((work (.numbered session)).runFrom state).1)).runFrom
        ((work (.numbered session)).runFrom state).2).2) := by
  rw [scope, runFrom_bind_of_ok (runFrom_attempt _ state),
    runFrom_bind_of_ok (closeScope_runFrom _ _ _ _), runFrom_ofExcept]

theorem guarded_eq_scope (session : Nat) (work : Handle → Action α) (state : State) :
    (guarded session work).runFrom state = (scope session false work).runFrom state := by
  rw [scope_runFrom, guarded, runFrom_bind_of_ok (runFrom_attempt _ state)]
  generalize (work (.numbered session)).runFrom state = done
  obtain ⟨fault | result, middle⟩ := done
  · dsimp only
    rw [runFrom_bind_of_ok (rollBack_runFrom session middle), isFault, closeScope, if_pos rfl,
      runFrom_bind_of_ok (rollBack_runFrom session middle)]
    rfl
  · rfl

/-- Work in a session is a scope behind the opening of a session; outside a request the session is
its own. -/
theorem withSession_eq_scope (work : Handle → Action α) (state : State) :
    (withSession work).runFrom state =
      (opening >>= fun session => scope session state.contexts.isEmpty work).runFrom state := by
  rw [withSession, runFrom_bind_of_ok (runFrom_get state), runFrom_bind, opening,
    runFrom_bind_of_ok (runFrom_get state)]
  cases state.contexts.isEmpty with
  | true =>
      rw [if_pos rfl, if_pos rfl, runFrom_bind]
      generalize ownSession.runFrom state = opened
      obtain ⟨fault | session, middle⟩ := opened
      · rfl
      · dsimp only
        rw [runFrom_bind_of_ok (runFrom_attempt _ middle), guarded_eq_scope, scope_runFrom,
          scope_runFrom, closeScope_own, closeSession_runFrom]
        dsimp only
        rw [runFrom_bind_of_ok (closeSession_runFrom _ _), runFrom_ofExcept]
  | false =>
      rw [if_neg Bool.false_ne_true, if_neg Bool.false_ne_true, runFrom_bind]
      generalize requestSession.runFrom state = opened
      obtain ⟨fault | session, middle⟩ := opened
      · rfl
      · exact guarded_eq_scope session work middle

theorem engine_of_some {state : State} {number : Nat} (there : state.engine = some number) :
    engine.runFrom state = (.ok number, state) := by
  rw [engine, runFrom_bind_of_ok (runFrom_get state), there]
  rfl

theorem engine_eq_some {state later : State} {number : Nat}
    (found : engine.runFrom state = (.ok number, later)) : later.engine = some number := by
  rcases engineWith_cases createEngine state with
    ⟨other, there, finds⟩ | ⟨-, middle, -, ⟨fault, failed⟩ | ⟨options, creates⟩⟩
  · obtain ⟨same, rfl⟩ := Prod.mk.inj (finds.symm.trans found)
    exact there.trans (congrArg some (Except.ok.inj same))
  · cases failed.symm.trans found
  · obtain ⟨same, rfl⟩ := Prod.mk.inj
      ((createEngine_runFrom options middle).symm.trans (creates.symm.trans found))
    exact congrArg some (Except.ok.inj same)

/-- Where an engine cannot be had there was none, and the slots stay as they are. -/
theorem slots_of_engineWith_error {create : EngineOptions → Action Nat}
    (harmless : ∀ options before fault after,
      (create options).runFrom before = (.error fault, after) → after.slots = before.slots)
    {state later : State} {fault : Fault}
    (failed : (engineWith create).runFrom state = (.error fault, later)) :
    state.engine = none ∧ later.slots = state.slots := by
  rcases engineWith_cases create state with
    ⟨number, -, finds⟩ | ⟨absent, middle, same, ⟨trouble, fails⟩ | ⟨options, creates⟩⟩
  · cases finds.symm.trans failed
  · obtain ⟨-, rfl⟩ := Prod.mk.inj (fails.symm.trans failed)
    exact ⟨absent, slots_of_quiet same⟩
  · have kept := harmless options middle fault later (creates.symm.trans failed)
    exact ⟨absent, kept.trans (slots_of_quiet same)⟩

theorem slots_of_engine_error {state later : State} {fault : Fault}
    (failed : engine.runFrom state = (.error fault, later)) :
    state.engine = none ∧ later.slots = state.slots := by
  refine slots_of_engineWith_error (fun options before trouble after fails => ?_) failed
  cases (createEngine_runFrom options before).symm.trans fails

theorem slots_of_refused {state later : State} {trouble fault : Fault}
    (failed : (engineWith fun _ => throw trouble).runFrom state = (.error fault, later)) :
    state.engine = none ∧ later.slots = state.slots := by
  refine slots_of_engineWith_error (fun options before other after fails => ?_) failed
  obtain ⟨-, rfl⟩ := Prod.mk.inj fails
  rfl

/-- An engine can be had wherever the environment files can be read and the options mean
numbers. -/
theorem engine_of_readable {state loaded : State} {options : EngineOptions}
    (absent : state.engine = none) (loads : loadEnvironments.runFrom state = (.ok (), loaded))
    (readable : engineOptions loaded.environment loaded.locator = .ok options) :
    ∃ later, engine.runFrom state = (.ok (state.engineCount + 1), later) ∧
      later.engine = some (state.engineCount + 1) ∧ later.IsWhole := by
  obtain ⟨entries, found⟩ := databaseUrl_of_loadEnvironments loads
  have searched := keeps_databaseUrl state
  rw [found] at searched
  have quiet : loaded.quiet.engineCount = state.quiet.engineCount :=
    congrArg State.engineCount searched
  have count : loaded.engineCount = state.engineCount := quiet
  have taken : (ofExcept (engineOptions (loaded.logged entries).environment loaded.locator) :
      Action EngineOptions).runFrom (loaded.logged entries) =
        (.ok options, loaded.logged entries) := by
    rw [runFrom_ofExcept]
    exact congrArg (·, loaded.logged entries) readable
  rw [engine, runFrom_bind_of_ok (runFrom_get state), absent]
  dsimp only
  rw [runFrom_bind_of_ok found, runFrom_bind_of_ok (runFrom_get _), runFrom_bind_of_ok taken,
    runFrom_bind_of_ok (log_runFrom _ _ _ _), createEngine_runFrom, ← count]
  exact ⟨_, rfl, rfl, rfl, rfl⟩

end Action

end AuditTrail.Service
