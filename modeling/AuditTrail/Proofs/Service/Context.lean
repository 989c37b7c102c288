import AuditTrail.Proofs.Service.Search

/-!
# The context of a request

A request runs in a context of its own, and the session that it was lent is closed when it ends.
-/

namespace AuditTrail.Service

namespace State

/-- The state in which a request is handled. -/
def entered (state : State) (settings : List (String × Value)) : State :=
  { state with contexts := ⟨none, settings⟩ :: state.contexts }

/-- The state after a session is closed. -/
def closed (state : State) (session : Nat) : State :=
  { state with
    inTransaction := state.inTransaction.filter (· != session)
    journal := { state.journal with events := state.journal.events ++ [.closed session] } }

/-- The state after a request has ended: the session that the registry keeps is closed. -/
def released (state : State) : State :=
  match state.registry with
  | some ⟨engine, some session⟩ =>
    { state.closed session with
      contexts := state.contexts.tail
      registry := some ⟨engine, none⟩ }
  | _ => { state with contexts := state.contexts.tail }

variable (state : State)

@[simp]
theorem sessionCount_entered (settings : List (String × Value)) :
    (state.entered settings).sessionCount = state.sessionCount := rfl

@[simp]
theorem journal_entered (settings : List (String × Value)) :
    (state.entered settings).journal = state.journal := rfl

@[simp]
theorem sessionCount_logged (entries : List LogEntry) :
    (state.logged entries).sessionCount = state.sessionCount := rfl

@[simp]
theorem statements_logged (entries : List LogEntry) :
    (state.logged entries).journal.statements = state.journal.statements := rfl

@[simp]
theorem events_logged (entries : List LogEntry) :
    (state.logged entries).journal.events = state.journal.events := rfl

@[simp]
theorem sessionCount_released : state.released.sessionCount = state.sessionCount := by
  rw [released]
  split <;> rfl

@[simp]
theorem statements_released : state.released.journal.statements = state.journal.statements := by
  rw [released]
  split <;> rfl

/-- Releasing a session opens none. -/
theorem mem_events_of_released {session engine : Nat}
    (opened : Event.opened session engine ∈ state.released.journal.events) :
    Event.opened session engine ∈ state.journal.events := by
  rw [released] at opened
  split at opened
  · simpa [closed] using opened
  · exact opened

end State

namespace Action

variable {α : Type}

theorem logFault_runFrom (level : Level) (source : Source) (message : List Char) (fault : Fault)
    (state : State) :
    (logFault level source message fault).runFrom state = (.ok (), state.logged
      (state.journal.entries ++ [⟨level, source, message, some fault.kind⟩])) := rfl

theorem enter_runFrom (settings : List (String × Value)) (state : State) :
    (enter settings).runFrom state = (.ok (), state.entered settings) := rfl

/-- Cleaning up and leaving releases the session of a request. -/
theorem release_runFrom (next : Action α) (state : State) :
    (do cleanUp; leave; next).runFrom state = next.runFrom state.released := by
  have cleaned : ∃ middle, cleanUp.runFrom state = (.ok (), middle) ∧
      { middle with contexts := middle.contexts.tail } = state.released := by
    rw [State.released]
    cases kept : state.registry with
    | none => cases requests : state.contexts <;>
        simp [cleanUp, removeCurrent, runFrom_bind, kept, requests]
    | some registry =>
        obtain ⟨engine, current⟩ := registry
        cases current <;> cases requests : state.contexts <;>
          simp [cleanUp, removeCurrent, runFrom_bind, kept, requests, closeSession,
            leaveTransaction, event, note, State.closed]
  obtain ⟨middle, cleans, same⟩ := cleaned
  have left : leave.runFrom middle = (.ok (), state.released) := by
    rw [← same]
    rfl
  rw [runFrom_bind_of_ok cleans, runFrom_bind_of_ok left]

end Action

end AuditTrail.Service
