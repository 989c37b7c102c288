import AuditTrail.Proofs.Service.Slots

/-!
# The life of engines

Whatever is done with engines and sessions, in whatever surroundings, the three slots of an engine
are full or empty together, and engines come one after another, each of them disposed of before the
next one is created.
-/

namespace AuditTrail.Service

namespace Lifecycle

open Service.Action

/-- What surrounds the service. -/
structure Surroundings where
  environment : Environment
  files : Files
  store : Store
  unreachable : Option Fault

/-- A state in other surroundings. -/
def Surroundings.around (surroundings : Surroundings) (state : State) : State :=
  { state with
    environment := surroundings.environment
    files := surroundings.files
    store := surroundings.store
    unreachable := surroundings.unreachable }

/-- A step in the use of engines and sessions. -/
inductive Step where
  /-- The surroundings become others. -/
  | move (surroundings : Surroundings)
  /-- A request begins. -/
  | enter (settings : List (String × Value))
  /-- A request ends. -/
  | leave
  /-- An engine is asked for. -/
  | engine
  /-- An engine is asked for, by whatever needs one, and if there is none its options are
  refused. -/
  | refused (fault : Fault)
  /-- A connection is asked for. -/
  | connect
  /-- The session of the running request is asked for. -/
  | requestSession
  /-- A scope begins: a session is opened for it. -/
  | openScope
  /-- A statement is executed. -/
  | execute (handle : Handle) (statement : Sql.Statement)
  /-- A scope ends, its work having failed or not. -/
  | closeScope (session : Nat) (own failed : Bool)
  /-- The use of the request's session ends. -/
  | cleanUp
  /-- The store is tried. -/
  | ping
  /-- The engine is given up. -/
  | dispose

namespace Step

/-- What a step does. -/
def action : Step → Action Unit
  | move surroundings => update surroundings.around
  | enter settings => Action.enter settings
  | leave => Action.leave
  | engine => do let _ ← Action.engine
  | refused fault => do let _ ← engineWith fun _ => throw fault
  | connect => Action.connect
  | requestSession => do let _ ← Action.requestSession
  | openScope => do let _ ← opening
  | execute handle statement => do let _ ← Action.execute handle statement
  | closeScope session own failed => Action.closeScope session own failed
  | cleanUp => Action.cleanUp
  | ping => do let _ ← Action.ping
  | dispose => Action.dispose

/-- The state after a step, whether it fails or not. -/
def run (step : Step) (state : State) : State := (step.action.runFrom state).2

/-- A step empties the slots if it gives the engine up, and otherwise it at most fills them. -/
theorem slots_run (step : Step) (state : State) :
    step = dispose ∧ (step.run state).slots = state.slots.disposed ∨
      state.slots.Advances (step.run state).slots := by
  cases step with
  | dispose => exact .inl ⟨rfl, slots_dispose state⟩
  | move | enter | leave => exact .inr (.of_eq rfl)
  | engine => exact .inr (advances_engine.bind (fun _ => .of_keeps (.pure ())) state)
  | refused fault =>
      exact .inr (.of_eq ((keeps_slots_refused fault).bind (fun _ => .pure ()) state))
  | connect => exact .inr (advances_connect state)
  | requestSession =>
      exact .inr (advances_requestSession.bind (fun _ => .of_keeps (.pure ())) state)
  | openScope => exact .inr (advances_opening.bind (fun _ => .of_keeps (.pure ())) state)
  | execute handle statement =>
      exact .inr (.of_eq ((keeps_slots_execute handle statement).bind (fun _ => .pure ()) state))
  | closeScope session own failed =>
      exact .inr (.of_eq (keeps_slots_closeScope session own failed state))
  | cleanUp => exact .inr (.of_eq (keeps_slots_cleanUp state))
  | ping => exact .inr (advances_ping.bind (fun _ => .of_keeps (.pure ())) state)

theorem isOrderly_run {state : State} (orderly : state.slots.IsOrderly) (step : Step) :
    (step.run state).slots.IsOrderly := by
  rcases step.slots_run state with ⟨-, gone⟩ | same | ⟨absent, made⟩
  · rw [gone]
    exact orderly.disposed
  · rwa [same]
  · rw [made]
    exact orderly.created absent

end Step

/-- The state after some steps. -/
def run (steps : List Step) (state : State) : State :=
  steps.foldl (fun state step => step.run state) state

theorem isOrderly_initial (environment : Environment) (files : Files) (store : Store) :
    (State.initial environment files store).slots.IsOrderly where
  factory := rfl
  registry := rfl
  last number there := by
    have absurdity : none = some number := there
    cases absurdity
  phases := rfl

theorem run_cons (step : Step) (rest : List Step) (state : State) :
    run (step :: rest) state = run rest (step.run state) := rfl

theorem run_append (first second : List Step) (state : State) :
    run (first ++ second) state = run second (run first state) := by
  rw [run, run, run, List.foldl_append]

variable {state : State}

theorem isOrderly_run (orderly : state.slots.IsOrderly) (steps : List Step) :
    (run steps state).slots.IsOrderly := by
  induction steps generalizing state with
  | nil => exact orderly
  | cons step rest ih => exact ih (step.isOrderly_run orderly)

/-- Until the engine is given up at most one is created, and none where there is one. -/
theorem advances_run {steps : List Step} (kept : Step.dispose ∉ steps) :
    state.slots.Advances (run steps state).slots := by
  induction steps generalizing state with
  | nil => exact .of_eq rfl
  | cons step rest ih =>
      rw [List.mem_cons, not_or] at kept
      rcases step.slots_run state with ⟨gone, -⟩ | advances
      · exact absurd gone.symm kept.1
      · exact advances.trans (ih kept.2)

/-- Work that takes some steps and ends with an outcome. -/
def work (body : List Step) (outcome : Except Fault Unit) : Action Unit := do
  update (run body)
  ofExcept outcome

theorem work_runFrom (body : List Step) (outcome : Except Fault Unit) (state : State) :
    (work body outcome).runFrom state = (outcome, run body state) := by
  rw [work, runFrom_bind_of_ok (runFrom_update _ state), runFrom_ofExcept]

/-- Work in a session is its steps between the two ends of a scope. -/
theorem withSession_of_steps {session : Nat} {opened : State}
    (opens : opening.runFrom state = (.ok session, opened)) (body : List Step)
    (outcome : Except Fault Unit) :
    (withSession fun _ => work body outcome).runFrom state = (outcome,
      run (.openScope :: body ++ [.closeScope session state.contexts.isEmpty (isFault outcome)])
        state) := by
  have first : Step.openScope.run state = opened := by
    rw [Step.run, Step.action, runFrom_bind_of_ok opens]
    rfl
  rw [withSession_eq_scope, runFrom_bind_of_ok opens, scope_runFrom, work_runFrom, List.cons_append,
    run_cons, first, run_append]
  rfl

/-- Whatever is done with engines and sessions, inside scopes and outside, in surroundings that may
become others at any time: the engine, the factory and the registry are all there and of one engine,
or none of them is; every engine is disposed of before the next one is created; once an engine was
found, the same one is found until it is given up; and where none can be had the slots are empty, so
that one is had as soon as the settings can be read. -/
theorem engine_lifecycle (environment : Environment) (files : Files) (store : Store)
    (steps : List Step) :
    let state := run steps (.initial environment files store)
    (∀ session opened body outcome, opening.runFrom state = (.ok session, opened) →
      (withSession fun _ => work body outcome).runFrom state = (outcome,
        run (steps ++ .openScope :: body ++
          [.closeScope session state.contexts.isEmpty (isFault outcome)])
            (.initial environment files store))) ∧
    state.IsWhole ∧
    state.slots.phases ++ state.engine.toList.map .disposed = phasesUpTo state.engineCount ∧
    (∀ number later, engine.runFrom state = (.ok number, later) →
      ∀ further, Step.dispose ∉ further →
        engine.runFrom (run further later) = (.ok number, run further later)) ∧
    ∀ fault later, (engine.runFrom state = (.error fault, later) ∨
        ∃ trouble, (engineWith fun _ => throw trouble).runFrom state = (.error fault, later)) →
      later.engine = none ∧ later.factory = none ∧ later.registry = none ∧
      ∀ (surroundings : Surroundings) loaded options,
        loadEnvironments.runFrom (surroundings.around later) = (.ok (), loaded) →
        engineOptions loaded.environment loaded.locator = .ok options →
          ∃ number last, engine.runFrom (surroundings.around later) = (.ok number, last) ∧
            last.engine = some number ∧ last.IsWhole := by
  intro state
  have orderly : state.slots.IsOrderly :=
    isOrderly_run (isOrderly_initial environment files store) steps
  refine ⟨fun session opened body outcome opens => ?_, ⟨orderly.factory, orderly.registry⟩,
    orderly.phases, fun number later found further kept => ?_, fun fault later failed => ?_⟩
  · rw [withSession_of_steps opens, List.append_assoc, run_append steps]
  · have there : later.slots.engine = some number := engine_eq_some found
    exact engine_of_some ((advances_run kept).engine_eq there)
  · obtain ⟨absent, same⟩ : state.engine = none ∧ later.slots = state.slots := by
      rcases failed with failed | ⟨trouble, failed⟩
      · exact slots_of_engine_error failed
      · exact slots_of_refused failed
    have engine : later.engine = none := (congrArg Slots.engine same).trans absent
    have factory : later.factory = none :=
      (congrArg Slots.factory same).trans (orderly.factory.trans absent)
    have registry : later.registry.map Registry.engine = none :=
      (congrArg Slots.registry same).trans (orderly.registry.trans absent)
    refine ⟨engine, factory, Option.map_eq_none_iff.mp registry,
      fun surroundings loaded options loads readable => ?_⟩
    have empty : (surroundings.around later).engine = none := engine
    obtain ⟨last, found, there, whole⟩ := engine_of_readable empty loads readable
    exact ⟨_, last, found, there, whole⟩

/-- Settings under which no engine can be created. -/
def misconfigured : Environment := [("SQLALCHEMY_POOL_SIZE", "many")]

/-- A directory without any files. -/
def noFiles : Files := .absent "config".toList

/-- A store that answers every statement with nothing. -/
def silentStore : Store := fun _ _ => .ok ⟨.null, [], 0⟩

/-- Without a number for the pool no engine can be had, and with the setting gone one is. -/
theorem engine_lifecycle_corrected :
    ∃ fault later number last,
      engine.runFrom (run [.ping, .dispose] (.initial misconfigured noFiles silentStore)) =
        (.error fault, later) ∧ later.factory = none ∧
      engine.runFrom (Surroundings.around ⟨[], noFiles, silentStore, none⟩ later) =
        (.ok number, last) ∧ last.factory = some number := by
  obtain ⟨-, -, -, -, correctable⟩ :=
    engine_lifecycle misconfigured noFiles silentStore [.ping, .dispose]
  obtain ⟨fault, later, failed⟩ : ∃ fault later,
      engine.runFrom (run [.ping, .dispose] (.initial misconfigured noFiles silentStore)) =
        (.error fault, later) := ⟨_, _, rfl⟩
  obtain ⟨-, factory, -, corrected⟩ := correctable fault later (.inl failed)
  obtain ⟨number, last, found, there, whole⟩ :=
    corrected ⟨[], noFiles, silentStore, none⟩ _ _ rfl rfl
  exact ⟨fault, later, number, last, failed, factory, found, whole.factory.trans there⟩

end Lifecycle

end AuditTrail.Service
