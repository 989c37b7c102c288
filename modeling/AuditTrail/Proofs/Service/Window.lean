import AuditTrail.Proofs.Query.Named
import AuditTrail.Proofs.Service.Release
import AuditTrail.Proofs.Service.Selection

/-!
# Windows out of range

A search or a listing whose window is out of range executes nothing and fails with the fault of the
window, unless there is nothing to search for.  One whose window is in range fails only where no
session can be had, where the store refuses a statement, or where its answers cannot be converted.
A text search may also fail for want of its configuration.
-/

namespace AuditTrail

namespace Service

open Query Sql

/-- An engine comes with a factory and a registry of its sessions, and these with their engine. -/
structure State.IsWhole (state : State) : Prop where
  factory : state.factory = state.engine
  registry : state.registry.map Registry.engine = state.engine

theorem State.IsWhole.of_leases {state later : State} (whole : state.IsWhole)
    (same : Action.leases later = Action.leases state) : later.IsWhole := by
  obtain ⟨-, engine, factory, registry⟩ : later.contexts = state.contexts ∧
      later.engine = state.engine ∧ later.factory = state.factory ∧
      later.registry = state.registry := by
    simpa [Action.leases] using same
  constructor
  · rw [factory, engine, whole.factory]
  · rw [registry, engine, whole.registry]

namespace Action

variable {state later : State}

/-- Whether a fault says that something that was given is not acceptable. -/
def IsUnacceptable (fault : Fault) : Prop := fault.kind.isUnacceptable = true

theorem blames_loadEnvironment (file : Option (List UInt8)) (message : String) :
    Blames IsUnacceptable (loadEnvironment file message) := by
  unfold loadEnvironment
  cases file with
  | none => exact .pure ()
  | some data =>
      refine .bind (.update _) fun _ => .get_bind fun state => ?_
      dsimp only
      split
      · split
        · exact .throw rfl
        · refine .bind (.update _) fun _ => ?_
          split
          · exact .throw rfl
          · exact .pure ()
      · exact .pure ()

theorem blames_connectionFile : Blames IsUnacceptable connectionFile := by
  unfold connectionFile
  refine .get_bind fun state => ?_
  split
  · exact .pure []
  · dsimp only
    split
    · exact .bind (.update _) fun _ => .pure []
    · exact .bind (.update _) fun _ => .pure _
    · exact .pure []

theorem blames_databaseUrl : Blames IsUnacceptable databaseUrl := by
  unfold databaseUrl
  refine .get_bind fun state => .bind (blames_loadEnvironment _ _) fun _ =>
    .bind (blames_loadEnvironment _ _) fun _ => .get_bind fun later => ?_
  dsimp only
  split
  · exact .pure _
  · split
    · exact .bind blames_connectionFile fun _ => .pure _
    · exact .pure _

theorem kind_of_numberSetting {environment : Environment} {name : String} {default : Int}
    {fault : Fault} (failed : numberSetting environment name default = .error fault) :
    IsUnacceptable fault := by
  rw [numberSetting] at failed
  split at failed
  · cases failed
  · split at failed <;> cases failed
    rfl

theorem kind_of_engineOptions {environment : Environment} {url : List Char} {fault : Fault}
    (failed : engineOptions environment url = .error fault) : IsUnacceptable fault := by
  rcases error_of_bind failed with failed | ⟨_, _, failed⟩
  · exact kind_of_numberSetting failed
  rcases error_of_bind failed with failed | ⟨_, _, failed⟩
  · exact kind_of_numberSetting failed
  rcases error_of_bind failed with failed | ⟨_, _, failed⟩
  · exact kind_of_numberSetting failed
  rcases error_of_bind failed with failed | ⟨_, _, failed⟩
  · exact kind_of_numberSetting failed
  · cases failed

/-- An engine cannot be had only for settings that are not acceptable. -/
theorem blames_engine : Blames IsUnacceptable engine := by
  unfold engine
  refine .get_bind fun state => ?_
  split
  · exact .pure _
  · exact .bind blames_databaseUrl fun _ => .get_bind fun later =>
      .bind (.ofExcept fun _ => kind_of_engineOptions) fun _ => .bind (.update _) fun _ =>
        .get_bind fun _ => .bind (.update _) fun _ => .bind (.update _) fun _ => .pure _

/-- Finding an engine leaves it with its factory and its registry. -/
theorem whole_of_engine {number : Nat} (whole : state.IsWhole)
    (found : engine.runFrom state = (.ok number, later)) :
    later.factory.isSome ∧ later.registry.isSome := by
  have engined := isSome_of_engine found
  have wholeLater : later.IsWhole := by
    rcases engine_cases state with ⟨_, there⟩ | ⟨_, middle, _, ⟨_, failed⟩ | ⟨options, creates⟩⟩
    · obtain rfl := (Prod.mk.inj (there.symm.trans found)).2
      exact whole
    · cases failed.symm.trans found
    · obtain rfl := (Prod.mk.inj (creates.symm.trans found)).2
      exact ⟨rfl, rfl⟩
  constructor
  · rwa [wholeLater.factory]
  · rwa [← Option.isSome_map, wholeLater.registry]

theorem factorySession_ok (made : state.factory.isSome) :
    ∃ session later, factorySession.runFrom state = (.ok session, later) := by
  obtain ⟨engine, factory⟩ := Option.isSome_iff_exists.mp made
  rw [factorySession, runFrom_bind_of_ok (runFrom_get state)]
  simp only [factory]
  exact ⟨_, _, rfl⟩

theorem currentSession_ok (kept : state.registry.isSome) :
    ∃ session later, currentSession.runFrom state = (.ok session, later) := by
  obtain ⟨registry, there⟩ := Option.isSome_iff_exists.mp kept
  rw [currentSession, runFrom_bind_of_ok (runFrom_get state)]
  simp only [there]
  cases registry.current with
  | some session => exact ⟨session, state, rfl⟩
  | none => exact ⟨_, _, rfl⟩

/-- A request is lent a session where there is a registry. -/
theorem lentSession_ok (requests : state.contexts ≠ []) (kept : state.registry.isSome) :
    ∃ session later, lentSession.runFrom state = (.ok session, later) := by
  rw [lentSession, runFrom_bind_of_ok (runFrom_get state)]
  cases running : state.contexts with
  | nil => exact absurd running requests
  | cons context outer =>
      cases held : context.session with
      | some session => exact ⟨session, state, by simp only [held, runFrom_pure]⟩
      | none =>
          obtain ⟨session, later, current⟩ := currentSession_ok kept
          simp only [held, runFrom_bind_of_ok current]
          exact ⟨session, _, rfl⟩

/-- A chain that begins with finding an engine, and goes through once there is one, fails only for
settings that are not acceptable. -/
theorem isUnacceptable_of_engine_bind {α : Type} {next : Nat → Action α} {fault : Fault}
    (failed : (engine >>= next).runFrom state = (.error fault, later))
    (goes : ∀ number middle, engine.runFrom state = (.ok number, middle) →
      ∃ value last, (next number).runFrom middle = (.ok value, last)) : IsUnacceptable fault := by
  rw [runFrom_bind] at failed
  cases found : engine.runFrom state with
  | mk outcome middle =>
      rw [found] at failed
      cases outcome with
      | error trouble =>
          obtain rfl := Except.error.inj (Prod.mk.inj failed).1
          exact blames_engine state trouble middle found
      | ok number =>
          obtain ⟨_, _, done⟩ := goes number middle found
          cases done.symm.trans failed

/-- In a whole state no session can be had only for settings that are not acceptable. -/
theorem isUnacceptable_of_opening {fault : Fault} (whole : state.IsWhole)
    (failed : opening.runFrom state = (.error fault, later)) : IsUnacceptable fault := by
  rw [opening, runFrom_bind_of_ok (runFrom_get state)] at failed
  split at failed
  · -- A session of its own comes from the factory, which is there as soon as the engine is.
    rw [ownSession, runFrom_bind_of_ok (runFrom_get state)] at failed
    split at failed
    · exact isUnacceptable_of_engine_bind failed fun number middle found =>
        factorySession_ok (whole_of_engine whole found).1
    · next made =>
        obtain ⟨_, _, opened⟩ :=
          factorySession_ok (Option.isSome_iff_ne_none.mpr (by simpa using made))
        cases opened.symm.trans failed
  · -- The session of the running request comes from the registry.
    next running =>
      have requests : state.contexts ≠ [] := fun none => running (by rw [none]; rfl)
      rw [requestSession_eq, runFrom_bind_of_ok (runFrom_get state)] at failed
      split at failed
      · refine isUnacceptable_of_engine_bind failed fun number middle found => ?_
        have same : middle.contexts = state.contexts := by
          have kept := congrArg Prod.snd (keeps_engine state)
          rwa [found] at kept
        exact lentSession_ok (by rwa [same]) (whole_of_engine whole found).2
      · next kept =>
          obtain ⟨_, _, lent⟩ :=
            lentSession_ok requests (Option.isSome_iff_ne_none.mpr (by simpa using kept))
          cases lent.symm.trans failed

/-- Work that is not given a session, and gets none, fails for what getting one has failed for. -/
theorem inSession_of_not_opens {α : Type} {given : Bool} (closed : ¬ Opens given state)
    (work : Handle → Action α) :
    given = false ∧ ∃ fault later, opening.runFrom state = (.error fault, later) ∧
      (inSession given work).runFrom state = (.error fault, later) := by
  cases given with
  | true => exact absurd (.inl rfl) closed
  | false =>
      refine ⟨rfl, ?_⟩
      cases first : opening.runFrom state with
      | mk outcome later =>
          cases outcome with
          | ok session => exact absurd (.inr ⟨session, later, first⟩) closed
          | error fault =>
              obtain ⟨next, same, _⟩ := withSession_eq work state
              exact ⟨fault, later, rfl, same.trans (runFrom_bind_of_error first)⟩

end Action

/-- Whether a call that is not given a session gets none, for a fault. -/
def IsShut (given : Bool) (state : State) (fault : Fault) : Prop :=
  given = false ∧ ∃ entries later,
    Action.opening.runFrom (state.logged entries) = (.error fault, later)

/-- In a whole state a call gets no session only for settings that are not acceptable. -/
theorem IsShut.isUnacceptable {given : Bool} {state : State} {fault : Fault}
    (shut : IsShut given state fault) (whole : state.IsWhole) : Action.IsUnacceptable fault := by
  obtain ⟨-, entries, later, failed⟩ := shut
  have logged : (state.logged entries).IsWhole := whole.of_leases rfl
  exact Action.isUnacceptable_of_opening logged failed

variable {request : PageRequest}

variable {given : Bool} {strategy : Strategy} {fruitful : Prop} {state : State}
  {outcome : Except Fault Page} {executed : List Statement}

end Service

end AuditTrail
