import AuditTrail.Proofs.Log.Handlers

/-!
# A log that is shared with others

Others install and withdraw handlers of their own while the log is started again and again.  Every
start closes and removes the handlers of the start before it and no others, so that after a start
the handlers are those of others, in their order, and behind them the ones that the start has made.
-/

namespace AuditTrail.Log

variable {others : List Handler}

/-- What can happen to a log that is shared with others, who have the given handlers. -/
inductive Event (others : List Handler) where
  /-- The log is started. -/
  | start (program : Program) (options : Options) (now : Moment)
  /-- An entry is written. -/
  | record (program : Program) (entry : Entry) (now : Moment)
  /-- Others install one of their handlers, unless it is in use. -/
  | install (handler : { handler // handler ∈ others })
  /-- Others withdraw one of their handlers, if it is in use. -/
  | withdraw (handler : { handler // handler ∈ others })

/-- What others do to their handlers; starts and entries do nothing to them. -/
def Event.onForeign : Event others → List Handler → List Handler
  | .install handler, handlers =>
    if handler.1 ∈ handlers then handlers else handlers ++ [handler.1]
  | .withdraw handler, handlers => handlers.erase handler.1
  | _, handlers => handlers

/-- What an event does to the log. -/
def Event.apply : Event others → State → Except Fault State
  | .start program options now, state => state.start program options now
  | .record program entry now, state => .ok (state.record program entry now)
  | event, state => .ok { state with handlers := event.onForeign state.handlers }

namespace State

/-- The log after some events, all of which succeed. -/
def run : List (Event others) → State → Except Fault State
  | [], state => .ok state
  | event :: rest, state => event.apply state >>= run rest

/-- The handlers of others after what they have done in some events. -/
def foreignAfter (events : List (Event others)) (handlers : List Handler) : List Handler :=
  events.foldl (fun handlers event => event.onForeign handlers) handlers

/-- Whether the others' handlers can be told from those that starts make, now and later. -/
structure IsShared (others : List Handler) (state : State) : Prop where
  foreign : ∀ handler ∈ others, handler.isOwn = false
  known : ∀ handler ∈ state.foreign, handler ∈ others
  apart : ∀ handler ∈ others, handler.number ∉ state.spent
  old : ∀ handler ∈ others, handler.number < state.count
  below : ∀ number ∈ state.spent, number < state.count

/-- A log in which only others have handlers is shared with them. -/
theorem isShared_of_foreign {state : State} (foreign : ∀ handler ∈ others, handler.isOwn = false)
    (known : ∀ handler ∈ state.handlers, handler ∈ others)
    (old : ∀ handler ∈ others, handler.number < state.count) (unclosed : state.closed = []) :
    state.IsShared others := by
  have spent : state.spent = [] := by
    have none : state.own = [] := by
      rw [own, List.filter_eq_nil_iff]
      intro handler member
      simp [foreign handler (known handler member)]
    rw [State.spent, unclosed, none]
    rfl
  refine ⟨foreign, fun handler member => known handler (List.mem_of_mem_filter member), ?_, old, ?_⟩
  · simp [spent]
  · simp [spent]

/-- Whether starts have made nothing but new numbers in between, and forgotten none. -/
structure Grows (state next : State) : Prop where
  kept : state.spent ⊆ next.spent
  fresh : ∀ number ∈ next.spent,
    number ∈ state.spent ∨ state.count ≤ number ∧ number < next.count
  count : state.count ≤ next.count

theorem Grows.of_eq {state next : State} (spent : next.spent = state.spent)
    (count : next.count = state.count) : state.Grows next :=
  ⟨spent ▸ List.Subset.refl _, fun _ member => .inl (spent ▸ member), Nat.le_of_eq count.symm⟩

theorem Grows.trans {state next later : State} (first : state.Grows next)
    (second : next.Grows later) : state.Grows later where
  kept _ member := second.kept (first.kept member)
  fresh number member := by
    have sooner := first.count
    have further := second.count
    rcases second.fresh number member with older | new
    · rcases first.fresh number older with oldest | between
      · exact .inl oldest
      · exact .inr (by omega)
    · exact .inr (by omega)
  count := Nat.le_trans first.count second.count

theorem own_of_restarts {program : Program} {options : Options} {threshold : Threshold}
    {writer : Writer} {state later : State}
    (restarts : state.Restarts program options threshold writer later) :
    later.foreign = state.foreign ∧
      later.own = madeHandlers state.count options.toConsole threshold writer := by
  have others : state.foreign.filter Handler.isOwn = [] := by
    rw [List.filter_eq_nil_iff]
    intro handler member
    rw [isOwn_of_mem_foreign member]
    simp
  rw [foreign, own, restarts.handlers, List.filter_append, List.filter_append, others]
  constructor
  · cases options.toConsole <;> simp [madeHandlers, Handler.isOwn, foreign]
  · cases options.toConsole <;> simp [madeHandlers, Handler.isOwn]

theorem mem_madeHandlers {count : Nat} {toConsole : Bool} {threshold : Threshold}
    {writer : Writer} {handler : Handler}
    (member : handler ∈ madeHandlers count toConsole threshold writer) :
    count ≤ handler.number ∧
      handler.number < count + (madeHandlers count toConsole threshold writer).length := by
  cases toConsole with
  | false =>
      obtain rfl := List.mem_singleton.mp member
      exact ⟨Nat.le_refl count, Nat.lt_succ_self count⟩
  | true =>
      rcases List.mem_pair.mp member with rfl | rfl
      · exact ⟨Nat.le_refl count, Nat.lt_add_of_pos_right Nat.two_pos⟩
      · exact ⟨Nat.le_succ count, Nat.lt_succ_self (count + 1)⟩

theorem Restarts.grows {program : Program} {options : Options} {threshold : Threshold}
    {writer : Writer} {state later : State}
    (restarts : state.Restarts program options threshold writer later) : state.Grows later where
  kept number member := List.mem_append_left _ (restarts.closed ▸ member)
  fresh number member := by
    rcases List.mem_append.mp member with closed | used
    · exact .inl (restarts.closed ▸ closed)
    · obtain ⟨handler, made, rfl⟩ := List.mem_map.mp used
      rw [(own_of_restarts restarts).2] at made
      rw [restarts.count]
      exact .inr (mem_madeHandlers made)
  count := by
    rw [restarts.count]
    exact Nat.le_add_right _ _

end State

namespace Event

variable {event : Event others} {state next : State}

theorem foreign_onForeign (foreign : ∀ handler ∈ others, handler.isOwn = false)
    (event : Event others) (handlers : List Handler) :
    ((event.onForeign handlers).filter fun handler => !handler.isOwn) =
      event.onForeign (handlers.filter fun handler => !handler.isOwn) := by
  cases event with
  | start | record => rfl
  | install handler =>
      have other := foreign handler.1 handler.2
      by_cases used : handler.1 ∈ handlers
      · simp [onForeign, used, other]
      · simp [onForeign, used, other]
  | withdraw handler => exact List.erase_filter.symm

theorem own_onForeign (foreign : ∀ handler ∈ others, handler.isOwn = false)
    (event : Event others) (handlers : List Handler) :
    (event.onForeign handlers).filter Handler.isOwn = handlers.filter Handler.isOwn := by
  cases event with
  | start | record => rfl
  | install handler =>
      have other := foreign handler.1 handler.2
      by_cases used : handler.1 ∈ handlers
      · simp [onForeign, used]
      · simp [onForeign, used, other]
  | withdraw handler =>
      have other := foreign handler.1 handler.2
      rw [onForeign, ← List.erase_filter, List.erase_of_not_mem]
      simp [other]

theorem mem_onForeign {handlers : List Handler} {handler : Handler}
    (member : handler ∈ event.onForeign handlers) : handler ∈ handlers ∨ handler ∈ others := by
  cases event with
  | start | record => exact .inl member
  | install added =>
      rw [onForeign] at member
      split at member
      · exact .inl member
      · rcases List.mem_append.mp member with older | new
        · exact .inl older
        · obtain rfl := List.mem_singleton.mp new
          exact .inr added.2
  | withdraw gone => exact .inl (List.mem_of_mem_erase member)

/-- An event does to the handlers of others what they do in it, and spends new numbers only. -/
theorem apply_cases (foreign : ∀ handler ∈ others, handler.isOwn = false)
    (applied : event.apply state = .ok next) :
    next.foreign = event.onForeign state.foreign ∧ state.Grows next := by
  have shared (event : Event others) :
      State.foreign { state with handlers := event.onForeign state.handlers } =
        event.onForeign state.foreign ∧
      state.Grows { state with handlers := event.onForeign state.handlers } := by
    refine ⟨foreign_onForeign foreign event _, .of_eq ?_ rfl⟩
    rw [State.spent, State.own, own_onForeign foreign]
    rfl
  cases event with
  | start program options now =>
      obtain ⟨threshold, writer, -, restarts⟩ := State.restarts_of_start applied
      exact ⟨(State.own_of_restarts restarts).1, restarts.grows⟩
  | record program entry now =>
      obtain rfl := Except.ok.inj applied
      obtain ⟨continues, closed, count⟩ := State.record_continues now program entry state
      refine ⟨foreign_of_continues continues, .of_eq ?_ count⟩
      rw [State.spent, closed, State.own, ownNumbers_of_continues continues]
      rfl
  | install handler =>
      obtain rfl := Except.ok.inj applied
      exact shared (.install handler)
  | withdraw handler =>
      obtain rfl := Except.ok.inj applied
      exact shared (.withdraw handler)

end Event

namespace State

variable {state middle later : State} {events : List (Event others)}

theorem IsShared.apply {event : Event others} (shared : state.IsShared others)
    (applied : event.apply state = .ok later) : later.IsShared others := by
  obtain ⟨foreign, grows⟩ := Event.apply_cases shared.foreign applied
  refine ⟨shared.foreign, fun handler member => ?_, fun handler member spent => ?_,
    fun handler member => Nat.lt_of_lt_of_le (shared.old handler member) grows.count,
    fun number spent => ?_⟩
  · rw [foreign] at member
    exact (Event.mem_onForeign member).elim (shared.known handler) id
  · rcases grows.fresh _ spent with older | ⟨new, -⟩
    · exact shared.apart handler member older
    · exact Nat.not_lt.mpr new (shared.old handler member)
  · rcases grows.fresh number spent with older | ⟨-, below⟩
    · exact Nat.lt_of_lt_of_le (shared.below number older) grows.count
    · exact below

/-- Over a run the log stays shared, the handlers of others are what these have made of them, and
starts have spent new numbers only. -/
theorem IsShared.run (shared : state.IsShared others) (ran : run events state = .ok later) :
    later.IsShared others ∧ later.foreign = foreignAfter events state.foreign ∧
      state.Grows later := by
  induction events generalizing state with
  | nil =>
      obtain rfl := Except.ok.inj ran
      exact ⟨shared, rfl, .of_eq rfl rfl⟩
  | cons event rest ih =>
      rw [State.run] at ran
      cases applied : event.apply state with
      | error fault =>
          rw [applied] at ran
          cases ran
      | ok next =>
          rw [applied] at ran
          obtain ⟨foreign, grows⟩ := Event.apply_cases shared.foreign applied
          obtain ⟨sharedLater, foreignLater, growsLater⟩ := ih (shared.apply applied) ran
          refine ⟨sharedLater, ?_, grows.trans growsLater⟩
          rw [foreignLater, foreign]
          rfl

theorem run_append (first second : List (Event others)) (state : State) :
    run (first ++ second) state = run first state >>= run second := by
  induction first generalizing state with
  | nil => rfl
  | cons event rest ih =>
      rw [List.cons_append, run, run]
      cases event.apply state with
      | error fault => rfl
      | ok next => exact ih next

/-- After any run that ends with a start, the handlers are those of others, as these have left
them, and behind them one writer of files and, if it is asked for, the console.  Every handler that
a start had made at any time before is closed and no longer in use, and no handler of others was
ever closed. -/
theorem handlers_after_start (shared : state.IsShared others)
    (ran : run events state = .ok middle) {program : Program} {options : Options} {now : Moment}
    (started : start program options now middle = .ok later) :
    (∃ threshold writer,
      Threshold.read program.environment options.threshold = .ok threshold ∧
      writer.directory = directory program options.directory ∧ writer.label = options.label ∧
      writer.limit = options.limit ∧
      later.handlers = foreignAfter events state.foreign ++
        ⟨middle.count, .file writer⟩ ::
          if options.toConsole then [⟨middle.count + 1, .console threshold⟩] else []) ∧
    (∀ first second earlier, events = first ++ second → run first state = .ok earlier →
      ∀ handler ∈ earlier.handlers, handler.isOwn = true →
        handler.number ∈ later.closed ∧ handler.number ∉ later.handlers.map Handler.number) ∧
    ∀ handler ∈ others, handler.number ∉ later.closed := by
  obtain ⟨sharedMiddle, foreign, -⟩ := shared.run ran
  obtain ⟨threshold, writer, read, restarts⟩ := restarts_of_start started
  have applied : (Event.start program options now : Event others).apply middle = .ok later :=
    started
  have sharedLater := sharedMiddle.apply applied
  refine ⟨⟨threshold, writer, read, restarts.directory, restarts.label, restarts.limit, ?_⟩,
    fun first second earlier split reached handler member isOwn => ?_, fun handler member closed =>
      sharedLater.apart handler member (List.mem_append_left _ closed)⟩
  · rw [restarts.handlers, foreign, madeHandlers]
  · -- Its number was spent by then; numbers stay spent, and a start closes all of them.
    subst split
    rw [run_append, reached] at ran
    obtain ⟨sharedEarlier, -, -⟩ := shared.run reached
    obtain ⟨-, -, grows⟩ := sharedEarlier.run ran
    have spent : handler.number ∈ middle.spent := by
      apply grows.kept
      apply List.mem_append_right
      exact List.mem_map_of_mem (List.mem_filter.mpr ⟨member, isOwn⟩)
    refine ⟨restarts.closed ▸ spent, fun used => ?_⟩
    obtain ⟨kept, installed, same⟩ := List.mem_map.mp used
    rw [restarts.handlers] at installed
    rcases List.mem_append.mp installed with other | made
    · exact sharedMiddle.apart kept (sharedMiddle.known kept other) (same ▸ spent)
    · have new := (mem_madeHandlers made).1
      have old := sharedMiddle.below _ spent
      omega

end State

/-- Two handlers of others. -/
def strangers : List Handler := [⟨0, .foreign "first"⟩, ⟨1, .foreign "second"⟩]

/-- A log in which one of them is in use. -/
def sharedLog : State := ⟨.usual, [⟨0, .foreign "first"⟩], [], 2, [], []⟩

/-- A start with or without the console. -/
def startWith (toConsole : Bool) : Event strangers :=
  .start ⟨[], ⟨1, []⟩, 1⟩ ⟨"trail".toList, none, .int 20, toConsole, 0⟩ default

/-- The second start closes the two handlers of the first, and the others' two handlers stay in
use. -/
theorem State.handlers_after_start_twice :
    ∃ later, run [startWith true, .install ⟨⟨1, .foreign "second"⟩, by decide⟩, startWith false]
        sharedLog = .ok later ∧
      later.handlers.map Handler.number = [0, 1, 4] ∧ 2 ∈ later.closed ∧ 3 ∈ later.closed := by
  have shared : sharedLog.IsShared strangers :=
    isShared_of_foreign (by decide) (by decide) (by decide) rfl
  obtain ⟨first, begun⟩ : ∃ first, (startWith true).apply sharedLog = .ok first := ⟨_, rfl⟩
  obtain ⟨threshold, writer, -, restarts⟩ := restarts_of_start begun
  let events : List (Event strangers) :=
    [startWith true, .install ⟨⟨1, .foreign "second"⟩, by decide⟩]
  obtain ⟨middle, ran, count⟩ : ∃ middle, run events sharedLog = .ok middle ∧ middle.count = 4 := by
    rw [run, begun]
    exact ⟨_, rfl, restarts.count⟩
  obtain ⟨later, started⟩ : ∃ later, (startWith false).apply middle = .ok later := ⟨_, rfl⟩
  obtain ⟨⟨_, _, _, _, _, _, handlers⟩, gone, -⟩ := handlers_after_start shared ran started
  have ended : run (events ++ [startWith false]) sharedLog = .ok later := by
    rw [run_append, ran]
    exact congrArg (fun result => result >>= run ([] : List (Event strangers))) started
  have reached : run [startWith true] sharedLog = .ok first := by
    rw [run, begun]
    rfl
  have closed (handler : Handler) (own : handler.isOwn = true)
      (made : handler ∈ madeHandlers 2 true threshold writer) : handler.number ∈ later.closed := by
    refine (gone [startWith true] _ first rfl reached handler ?_ own).1
    rw [restarts.handlers]
    exact List.mem_append_right _ made
  refine ⟨later, ended, ?_, closed ⟨2, .file writer⟩ rfl List.mem_cons_self,
    closed ⟨3, .console threshold⟩ rfl (List.mem_cons_of_mem _ List.mem_cons_self)⟩
  rw [handlers, count]
  rfl

end AuditTrail.Log
