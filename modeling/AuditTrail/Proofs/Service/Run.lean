import AuditTrail.Service.State

/-!
# Running actions

An action runs from a state to an outcome and a new state.  Most steps of the service leave most of
the state alone; what a step keeps is said by a view of the state that is the same before and
after, whether or not the step ends with a fault.
-/

namespace AuditTrail.Service.Action

variable {α β γ δ : Type}

/-- The outcome of an action, and the state that it leaves behind. -/
def runFrom (action : Action α) (state : State) : Except Fault α × State :=
  action.run.run state

@[simp]
theorem runFrom_pure (value : α) (state : State) :
    (pure value : Action α).runFrom state = (.ok value, state) := rfl

@[simp]
theorem runFrom_throw (fault : Fault) (state : State) :
    (throw fault : Action α).runFrom state = (.error fault, state) := rfl

@[simp]
theorem runFrom_get (state : State) : (get : Action State).runFrom state = (.ok state, state) := rfl

@[simp]
theorem runFrom_update (f : State → State) (state : State) :
    (update f).runFrom state = (.ok (), f state) := rfl

@[simp]
theorem runFrom_ofExcept (result : Except Fault α) (state : State) :
    (ofExcept result : Action α).runFrom state = (result, state) := by
  cases result <;> rfl

@[simp]
theorem runFrom_attempt (action : Action α) (state : State) :
    (attempt action).runFrom state =
      (.ok (action.runFrom state).1, (action.runFrom state).2) := rfl

theorem runFrom_bind (first : Action α) (next : α → Action β) (state : State) :
    (first >>= next).runFrom state =
      match first.runFrom state with
      | (.ok value, later) => (next value).runFrom later
      | (.error fault, later) => (.error fault, later) := by
  simp only [runFrom, ExceptT.run_bind, StateT.run_bind]
  generalize first.run.run state = done
  rcases done with ⟨_ | _, _⟩ <;> rfl

/-- The second step starts where the first one has ended. -/
theorem runFrom_bind_of_ok {first : Action α} {next : α → Action β} {value : α}
    {state later : State} (done : first.runFrom state = (.ok value, later)) :
    (first >>= next).runFrom state = (next value).runFrom later := by
  rw [runFrom_bind, done]

/-- Nothing is done behind a fault. -/
theorem runFrom_bind_of_error {first : Action α} {next : α → Action β} {fault : Fault}
    {state later : State} (failed : first.runFrom state = (.error fault, later)) :
    (first >>= next).runFrom state = (.error fault, later) := by
  rw [runFrom_bind, failed]

/-- The steps of a chain that has a result. -/
theorem exists_of_runFrom_bind {first : Action α} {next : α → Action β} {result : β}
    {state later : State} (done : (first >>= next).runFrom state = (.ok result, later)) :
    ∃ value middle, first.runFrom state = (.ok value, middle) ∧
      (next value).runFrom middle = (.ok result, later) := by
  rw [runFrom_bind] at done
  cases step : first.runFrom state with
  | mk outcome middle =>
      rw [step] at done
      cases outcome with
      | error fault => cases done
      | ok value => exact ⟨value, middle, rfl, done⟩

/-- An action that leaves a view of the state as it is. -/
def Keeps (view : State → γ) (action : Action α) : Prop :=
  ∀ state, view (action.runFrom state).2 = view state

namespace Keeps

variable {view : State → γ}

theorem pure (value : α) : Keeps view (pure value : Action α) := fun _ => rfl

theorem throw (fault : Fault) : Keeps view (throw fault : Action α) := fun _ => rfl

theorem get : Keeps view (get : Action State) := fun _ => rfl

theorem ofExcept (result : Except Fault α) : Keeps view (ofExcept result : Action α) := by
  intro state
  rw [runFrom_ofExcept]

theorem update {f : State → State} (same : ∀ state, view (f state) = view state) :
    Keeps view (update f) := same

theorem bind {first : Action α} {next : α → Action β} (kept : Keeps view first)
    (later : ∀ value, Keeps view (next value)) : Keeps view (first >>= next) := by
  intro state
  have before := kept state
  rw [runFrom_bind]
  generalize first.runFrom state = done at before
  rcases done with ⟨fault | value, middle⟩
  · exact before
  · exact (later value middle).trans before

/-- A step that begins with looking at the state. -/
theorem get_bind {next : State → Action β} (later : ∀ state, Keeps view (next state)) :
    Keeps view (MonadState.get >>= next) :=
  Keeps.bind Keeps.get later

/-- A view of a view that is kept is kept. -/
theorem map {action : Action α} (kept : Keeps view action) (form : γ → δ) :
    Keeps (form ∘ view) action :=
  fun state => congrArg form (kept state)

end Keeps

/-- An action that leads from states of a kind to states of that kind. -/
def Preserves (holds : State → Prop) (action : Action α) : Prop :=
  ∀ state, holds state → holds (action.runFrom state).2

namespace Preserves

variable {holds : State → Prop}

theorem of_keeps {view : State → γ} {action : Action α} (kept : Keeps view action)
    (seen : ∀ before after, view after = view before → holds before → holds after) :
    Preserves holds action :=
  fun state there => seen state _ (kept state) there

theorem pure (value : α) : Preserves holds (pure value : Action α) := fun _ there => there

theorem throw (fault : Fault) : Preserves holds (throw fault : Action α) := fun _ there => there

theorem ofExcept (result : Except Fault α) : Preserves holds (ofExcept result : Action α) := by
  intro state there
  rwa [runFrom_ofExcept]

theorem attempt {action : Action α} (preserved : Preserves holds action) :
    Preserves holds (attempt action) :=
  preserved

theorem bind {first : Action α} {next : α → Action β} (begun : Preserves holds first)
    (gone : ∀ value, Preserves holds (next value)) : Preserves holds (first >>= next) := by
  intro state there
  have middle := begun state there
  rw [runFrom_bind]
  generalize first.runFrom state = done at middle
  rcases done with ⟨fault | value, later⟩
  · exact middle
  · exact gone value later middle

/-- A step that begins with looking at the state. -/
theorem get_bind {next : State → Action β} (gone : ∀ state, Preserves holds (next state)) :
    Preserves holds (MonadState.get >>= next) :=
  Preserves.bind (fun _ there => there) gone

end Preserves

/-- An action whose results are all of a kind. -/
def Yields (good : α → Prop) (action : Action α) : Prop :=
  ∀ state value later, action.runFrom state = (.ok value, later) → good value

namespace Yields

variable {good : α → Prop} {fine : β → Prop}

theorem pure {value : α} (there : good value) : Yields good (pure value : Action α) := by
  intro state other later done
  obtain ⟨rfl, -⟩ : value = other ∧ state = later := by simpa using done
  exact there

theorem throw (fault : Fault) : Yields good (throw fault : Action α) := by
  intro state value later done
  simp at done

theorem bind_of {first : Action α} {next : α → Action β} (begun : Yields good first)
    (gone : ∀ value, good value → Yields fine (next value)) : Yields fine (first >>= next) := by
  intro state result later done
  obtain ⟨value, middle, step, rest⟩ := exists_of_runFrom_bind done
  exact gone value (begun state value middle step) middle result later rest

theorem bind {first : Action α} {next : α → Action β} (gone : ∀ value, Yields fine (next value)) :
    Yields fine (first >>= next) :=
  @bind_of _ _ (fun _ => True) _ _ _ (fun _ _ _ _ => trivial) fun value _ => gone value

theorem attempt {action : Action α} (there : Yields good action) :
    Yields (fun outcome => ∀ value, outcome = .ok value → good value) (attempt action) := by
  intro state outcome later done value succeeds
  rw [runFrom_attempt] at done
  obtain ⟨first, -⟩ := Prod.mk.inj done
  exact there state value _ (Prod.ext ((Except.ok.inj first).trans succeeds) rfl)

end Yields

/-- An action whose faults are all of a kind. -/
def Blames (bad : Fault → Prop) (action : Action α) : Prop :=
  ∀ state fault later, action.runFrom state = (.error fault, later) → bad fault

namespace Blames

variable {bad : Fault → Prop}

theorem pure (value : α) : Blames bad (pure value : Action α) := by
  intro state fault later failed
  simp at failed

theorem throw {fault : Fault} (there : bad fault) : Blames bad (throw fault : Action α) := by
  intro state other later failed
  obtain ⟨rfl, -⟩ : fault = other ∧ state = later := by simpa using failed
  exact there

theorem update (f : State → State) : Blames bad (update f) := by
  intro state fault later failed
  simp at failed

theorem ofExcept {result : Except Fault α} (there : ∀ fault, result = .error fault → bad fault) :
    Blames bad (ofExcept result : Action α) := by
  intro state fault later failed
  rw [runFrom_ofExcept] at failed
  exact there fault (Prod.mk.inj failed).1

theorem bind {first : Action α} {next : α → Action β} (begun : Blames bad first)
    (gone : ∀ value, Blames bad (next value)) : Blames bad (first >>= next) := by
  intro state fault later failed
  rw [runFrom_bind] at failed
  cases step : first.runFrom state with
  | mk outcome middle =>
      rw [step] at failed
      cases outcome with
      | error other =>
          obtain rfl := Except.error.inj (Prod.mk.inj failed).1
          exact begun state other middle step
      | ok value => exact gone value middle fault later failed

/-- A step that begins with looking at the state. -/
theorem get_bind {next : State → Action β} (gone : ∀ state, Blames bad (next state)) :
    Blames bad (MonadState.get >>= next) :=
  Blames.bind (fun state fault later failed => by simp at failed) gone

end Blames

end AuditTrail.Service.Action
