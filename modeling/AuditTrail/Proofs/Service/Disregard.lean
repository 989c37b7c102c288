import AuditTrail.Proofs.Service.Search

/-!
# Work that leaves the settings alone

An action that never looks at the file of the settings, nor at the configuration that is kept of it,
does the same whatever they are, and leaves them as they are.  All of the service's work is of this
kind but for finding the text search configuration.
-/

namespace AuditTrail.Service

/-- The state with another file of settings, and with another configuration kept of it. -/
def State.recalling (state : State) (file : Option (List UInt8)) (kept : Option String) : State :=
  { state with files := { state.files with settings := file }, searchConfiguration := kept }

namespace Action

variable {α β : Type}

/-- Whether an action that starts in a state neither looks at the file of the settings, or at what
is kept of it, nor touches them. -/
def DisregardsAt (action : Action α) (state : State) : Prop :=
  ∀ file kept, action.runFrom (state.recalling file kept) =
    ((action.runFrom state).1, (action.runFrom state).2.recalling file kept)

/-- An action that leaves the settings alone, wherever it starts. -/
def Disregards (action : Action α) : Prop := ∀ state, action.DisregardsAt state

namespace Disregards

theorem pure (value : α) : Disregards (pure value : Action α) := fun _ _ _ => rfl

theorem throw (fault : Fault) : Disregards (throw fault : Action α) := fun _ _ _ => rfl

theorem ofExcept (result : Except Fault α) : Disregards (ofExcept result : Action α) := by
  intro state file kept
  rw [runFrom_ofExcept, runFrom_ofExcept]

theorem update {f : State → State}
    (apart : ∀ state file kept, f (state.recalling file kept) = (f state).recalling file kept) :
    Disregards (update f) := by
  intro state file kept
  rw [runFrom_update, runFrom_update, apart]

theorem attempt {action : Action α} (blind : Disregards action) : Disregards (attempt action) := by
  intro state file kept
  rw [runFrom_attempt, runFrom_attempt, blind]

theorem bind {first : Action α} {next : α → Action β} (begun : Disregards first)
    (gone : ∀ value, Disregards (next value)) : Disregards (first >>= next) := by
  intro state file kept
  rw [runFrom_bind, runFrom_bind, begun]
  generalize first.runFrom state = done
  obtain ⟨fault | value, later⟩ := done
  · rfl
  · exact gone value later file kept

/-- A step that begins with looking at the rest of the state. -/
theorem get_bind {next : State → Action β}
    (blind : ∀ state file kept, next (state.recalling file kept) = next state)
    (gone : ∀ state, Disregards (next state)) : Disregards (MonadState.get >>= next) := by
  intro state file kept
  rw [runFrom_bind_of_ok (runFrom_get _), runFrom_bind_of_ok (runFrom_get _), blind]
  exact gone state state file kept

end Disregards

/-- What is left alone stays as it is. -/
theorem DisregardsAt.searchConfiguration_eq {action : Action α} {state : State}
    (blind : action.DisregardsAt state) :
    (action.runFrom state).2.searchConfiguration = state.searchConfiguration := by
  have same : action.runFrom state = ((action.runFrom state).1,
      (action.runFrom state).2.recalling state.files.settings state.searchConfiguration) :=
    blind state.files.settings state.searchConfiguration
  rw [same]
  rfl

theorem disregards_log (level : Level) (source : Source) (message : List Char) :
    Disregards (log level source message) :=
  .update fun _ _ _ => rfl

theorem disregards_logFault (level : Level) (source : Source) (message : List Char)
    (fault : Fault) : Disregards (logFault level source message fault) :=
  .update fun _ _ _ => rfl

theorem disregards_event (e : Event) : Disregards (event e) := .update fun _ _ _ => rfl

theorem disregards_execute (handle : Handle) (statement : Sql.Statement) :
    Disregards (execute handle statement) := by
  have asks : Disregards (ask statement) :=
    .get_bind (fun _ _ _ => rfl) fun _ => .bind (.update fun _ _ _ => rfl) fun _ => .ofExcept _
  cases handle with
  | given => exact asks
  | numbered session =>
      exact .bind (disregards_event _) fun _ => .bind (.update fun _ _ _ => rfl) fun _ => asks

theorem disregards_loadEnvironment (file : Option (List UInt8)) (message : String) :
    Disregards (loadEnvironment file message) := by
  unfold loadEnvironment
  cases file with
  | none => exact .pure ()
  | some data =>
      refine .bind (disregards_log _ _ _) fun _ => .get_bind (fun _ _ _ => rfl) fun state => ?_
      dsimp only
      split
      · split
        · exact .throw _
        · refine .bind (.update fun _ _ _ => rfl) fun _ => ?_
          split
          · exact .throw _
          · exact .pure ()
      · exact .pure ()

theorem disregards_connectionFile : Disregards connectionFile := by
  refine .get_bind (fun _ _ _ => rfl) fun state => ?_
  split
  · exact .pure []
  · dsimp only
    split
    · exact .bind (disregards_logFault _ _ _ _) fun _ => .pure []
    · exact .bind (disregards_log _ _ _) fun _ => .pure _
    · exact .pure []

theorem disregards_databaseUrl : Disregards databaseUrl := by
  refine .get_bind (fun _ _ _ => rfl) fun state => .bind (disregards_loadEnvironment _ _) fun _ =>
    .bind (disregards_loadEnvironment _ _) fun _ => .get_bind (fun _ _ _ => rfl) fun later => ?_
  dsimp only
  split
  · exact .pure _
  · split
    · exact .bind disregards_connectionFile fun _ => .pure _
    · exact .pure _

theorem disregards_engine : Disregards engine := by
  have creates (options : EngineOptions) : Disregards (createEngine options) :=
    .get_bind (fun _ _ _ => rfl) fun _ => .bind (disregards_event _) fun _ =>
      .bind (.update fun _ _ _ => rfl) fun _ => .pure _
  refine .get_bind (fun _ _ _ => rfl) fun state => ?_
  split
  · exact .pure _
  · exact .bind disregards_databaseUrl fun _ => .get_bind (fun _ _ _ => rfl) fun _ =>
      .bind (.ofExcept _) fun _ => .bind (disregards_log _ _ _) fun _ => creates _

theorem disregards_openSession (engine : Nat) : Disregards (openSession engine) :=
  .get_bind (fun _ _ _ => rfl) fun _ => .bind (disregards_event _) fun _ =>
    .bind (.update fun _ _ _ => rfl) fun _ => .pure _

theorem disregards_closeSession (session : Nat) : Disregards (closeSession session) :=
  .bind (disregards_event _) fun _ => .update fun _ _ _ => rfl

theorem disregards_rollBack (session : Nat) : Disregards (rollBack session) := by
  refine .get_bind (fun _ _ _ => rfl) fun state => ?_
  split
  · exact .bind (disregards_event _) fun _ => .update fun _ _ _ => rfl
  · exact .pure ()

theorem disregards_removeCurrent : Disregards removeCurrent := by
  refine .get_bind (fun _ _ _ => rfl) fun state => ?_
  split
  · exact .pure ()
  · split
    · exact .pure ()
    · exact .bind (disregards_closeSession _) fun _ => .update fun _ _ _ => rfl

theorem disregards_cleanUp : Disregards cleanUp :=
  .bind (.update fun _ _ _ => rfl) fun _ => disregards_removeCurrent

theorem disregards_currentSession : Disregards currentSession := by
  refine .get_bind (fun _ _ _ => rfl) fun state => ?_
  split
  · exact .throw _
  · split
    · exact .pure _
    · exact .bind (disregards_openSession _) fun _ => .bind (.update fun _ _ _ => rfl) fun _ =>
        .pure _

theorem disregards_requestSession : Disregards requestSession := by
  have lent : Disregards lentSession := by
    refine .get_bind (fun _ _ _ => rfl) fun state => ?_
    split
    · exact .throw _
    · split
      · exact .pure _
      · exact .bind disregards_currentSession fun _ => .bind (.update fun _ _ _ => rfl) fun _ =>
          .pure _
  rw [requestSession_eq]
  refine .get_bind (fun _ _ _ => rfl) fun state => ?_
  split
  · exact .bind disregards_engine fun _ => lent
  · exact lent

theorem disregards_ownSession : Disregards ownSession := by
  have made : Disregards factorySession := by
    refine .get_bind (fun _ _ _ => rfl) fun state => ?_
    split
    · exact .throw _
    · exact disregards_openSession _
  refine .get_bind (fun _ _ _ => rfl) fun state => ?_
  dsimp only
  split
  · exact .bind disregards_engine fun _ => made
  · exact made

theorem disregards_guarded (session : Nat) {work : Handle → Action α}
    (works : ∀ handle, Disregards (work handle)) : Disregards (guarded session work) := by
  refine .bind (.attempt (works _)) fun outcome => ?_
  split
  · exact .pure _
  · exact .bind (disregards_rollBack session) fun _ => .throw _

theorem disregards_inSession (given : Bool) {work : Handle → Action α}
    (works : ∀ handle, Disregards (work handle)) : Disregards (inSession given work) := by
  cases given with
  | true => exact works .given
  | false =>
      refine .get_bind (fun _ _ _ => rfl) fun state => ?_
      split
      · exact .bind disregards_ownSession fun session =>
          .bind (.attempt (disregards_guarded session works)) fun _ =>
            .bind (disregards_closeSession session) fun _ => .ofExcept _
      · exact .bind disregards_requestSession fun session => disregards_guarded session works

theorem disregards_countAndFetch (handle : Handle) (select : List Char)
    (clauses : List (List Char)) (bindings : Sql.Bindings) (key : Sql.SortKey)
    (window : Sql.Window) :
    Disregards (countAndFetch handle select clauses bindings key window) :=
  .bind (disregards_execute handle _) fun _ => .bind (disregards_execute handle _) fun _ =>
    .bind (.ofExcept _) fun _ => .bind (.ofExcept _) fun _ => .pure _

theorem disregards_listIn (handle : Handle) (request : PageRequest) :
    Disregards (listIn handle request) :=
  .bind (.ofExcept _) fun _ => disregards_countAndFetch _ _ _ _ _ _

theorem disregards_list (given : Bool) (request : PageRequest) :
    Disregards (list given request) :=
  disregards_inSession given fun handle => disregards_listIn handle request

theorem disregards_logIgnored (query : Option String) : Disregards (logIgnored query) := by
  rw [logIgnored]
  induction Query.ignoredColumns (query.getD "").toList with
  | nil => exact .pure ()
  | cons name rest ih => exact .bind (disregards_log _ _ _) fun _ => ih

/-- Of the strategies of a search the text search alone needs the settings. -/
theorem disregards_runStrategy (query : Option String) (request : PageRequest) (handle : Handle)
    {strategy : Strategy} (other : ¬ strategy.IsFullText) :
    Disregards (runStrategy query request handle strategy) := by
  cases strategy with
  | listing => exact disregards_listIn handle request
  | columns conditions =>
      exact .bind (disregards_log _ _ _) fun _ => .bind (.ofExcept _) fun _ =>
        .bind (.ofExcept _) fun _ => disregards_countAndFetch _ _ _ _ _ _
  | fullText expression => exact absurd trivial other
  | nothing => exact .bind (disregards_log _ _ _) fun _ => .pure _

theorem disregards_search (given : Bool) {query : Option String} (request : PageRequest)
    (other : ¬ (Strategy.ofQuery query).IsFullText) : Disregards (search given query request) := by
  rw [search]
  split
  · exact .bind (disregards_log _ _ _) fun _ => disregards_list given request
  · exact .bind (disregards_logIgnored query) fun _ =>
      disregards_inSession given fun handle => disregards_runStrategy query request handle other

end Action

end AuditTrail.Service
