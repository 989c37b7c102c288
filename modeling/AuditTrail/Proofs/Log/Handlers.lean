import AuditTrail.Log.Channels
import Mathlib.Data.List.Forall2

/-!
# Handlers at a start

Handlers are of two kinds: those of others, and those that starts have made.  Writing an entry keeps
them all, except that a writer may begin another file.  A start closes and removes the second kind
and puts its own handlers behind the first.
-/

namespace AuditTrail.Log

namespace State

/-- The handlers of others. -/
def foreign (state : State) : List Handler := state.handlers.filter fun handler => !handler.isOwn

/-- The handlers that starts have made. -/
def own (state : State) : List Handler := state.handlers.filter Handler.isOwn

/-- The numbers of the handlers that starts have made so far, closed or in use. -/
def spent (state : State) : List Nat := state.closed ++ state.own.map Handler.number

end State

/-- The handlers that a start makes, numbered from the given number on. -/
def madeHandlers (count : Nat) (toConsole : Bool) (threshold : Threshold) (writer : Writer) :
    List Handler :=
  ⟨count, .file writer⟩ :: if toConsole then [⟨count + 1, .console threshold⟩] else []

/-- Whether a writer is what another one has become. -/
structure Writer.Continues (writer next : Writer) : Prop where
  directory : next.directory = writer.directory
  label : next.label = writer.label
  limit : next.limit = writer.limit

/-- What a handler can become when an entry is written: a writer may begin another file. -/
inductive Handler.Continues : Handler → Handler → Prop where
  | same (handler : Handler) : Continues handler handler
  | file (number : Nat) {writer next : Writer} (continues : writer.Continues next) :
      Continues ⟨number, .file writer⟩ ⟨number, .file next⟩

theorem Writer.continues_write (writer : Writer) (now : Moment) (line : List Char) (disk : Disk) :
    writer.Continues (writer.write now line disk).1 := by
  rw [Writer.write]
  dsimp only
  split <;> exact ⟨rfl, rfl, rfl⟩

namespace State

variable (weight : Int) (line : List Char) (now : Moment)

theorem continues_send (handler : Handler) (state : State) :
    handler.Continues (send weight line now handler state).1 := by
  obtain ⟨number, channel⟩ := handler
  cases channel with
  | foreign name => exact .same _
  | file writer => exact .file number (writer.continues_write now line state.disk)
  | console threshold =>
      rw [send]
      dsimp only
      split <;> exact .same _

theorem send_counts (handler : Handler) (state : State) :
    (send weight line now handler state).2.closed = state.closed ∧
      (send weight line now handler state).2.count = state.count := by
  rw [send]
  split
  · exact ⟨rfl, rfl⟩
  · exact ⟨rfl, rfl⟩
  · split <;> exact ⟨rfl, rfl⟩

theorem continues_sendAll (handlers : List Handler) (state : State) :
    List.Forall₂ Handler.Continues handlers (sendAll weight line now handlers state).1 := by
  induction handlers generalizing state with
  | nil => exact .nil
  | cons handler rest ih =>
      exact .cons (continues_send weight line now handler state)
        (ih (send weight line now handler state).2)

theorem sendAll_counts (handlers : List Handler) (state : State) :
    (sendAll weight line now handlers state).2.closed = state.closed ∧
      (sendAll weight line now handlers state).2.count = state.count := by
  induction handlers generalizing state with
  | nil => exact ⟨rfl, rfl⟩
  | cons handler rest ih =>
      obtain ⟨closed, count⟩ := send_counts weight line now handler state
      obtain ⟨closedLater, countLater⟩ := ih (send weight line now handler state).2
      exact ⟨closedLater.trans closed, countLater.trans count⟩

/-- Writing an entry keeps the handlers, their order and what is closed. -/
theorem record_continues (program : Program) (entry : Entry) (state : State) :
    List.Forall₂ Handler.Continues state.handlers (state.record program entry now).handlers ∧
      (state.record program entry now).closed = state.closed ∧
      (state.record program entry now).count = state.count := by
  rw [record]
  split
  · exact ⟨continues_sendAll _ _ now _ state, sendAll_counts _ _ now _ state⟩
  · exact ⟨List.forall₂_same.mpr fun handler _ => .same handler, rfl, rfl⟩

end State

theorem Handler.Continues.isOwn_eq {handler next : Handler} (continues : handler.Continues next) :
    next.isOwn = handler.isOwn := by
  cases continues <;> rfl

theorem Handler.Continues.number_eq {handler next : Handler} (continues : handler.Continues next) :
    next.number = handler.number := by
  cases continues <;> rfl

theorem Handler.Continues.eq_of_foreign {handler next : Handler}
    (continues : handler.Continues next) (foreign : handler.isOwn = false) : next = handler := by
  cases continues with
  | same => rfl
  | file => cases foreign

theorem Handler.Continues.eq_of_console {number : Nat} {threshold : Threshold} {next : Handler}
    (continues : (⟨number, .console threshold⟩ : Handler).Continues next) :
    next = ⟨number, .console threshold⟩ := by
  cases continues
  rfl

theorem Handler.Continues.exists_writer {number : Nat} {writer : Writer} {handler : Handler}
    (continues : (⟨number, .file writer⟩ : Handler).Continues handler) :
    ∃ next, writer.Continues next ∧ handler = ⟨number, .file next⟩ := by
  cases continues with
  | same => exact ⟨writer, ⟨rfl, rfl, rfl⟩, rfl⟩
  | file _ later => exact ⟨_, later, rfl⟩

theorem foreign_of_continues {handlers later : List Handler}
    (continues : List.Forall₂ Handler.Continues handlers later) :
    later.filter (fun handler => !handler.isOwn) =
      handlers.filter fun handler => !handler.isOwn := by
  induction continues with
  | nil => rfl
  | @cons handler next rest after first _ ih =>
      cases own : handler.isOwn with
      | false => simp [first.eq_of_foreign own, own, ih]
      | true => simp [first.isOwn_eq, own, ih]

theorem ownNumbers_of_continues {handlers later : List Handler}
    (continues : List.Forall₂ Handler.Continues handlers later) :
    (later.filter Handler.isOwn).map Handler.number =
      (handlers.filter Handler.isOwn).map Handler.number := by
  induction continues with
  | nil => rfl
  | @cons handler next rest after first _ ih =>
      cases own : handler.isOwn with
      | false => simp [first.isOwn_eq, own, ih]
      | true => simp [first.isOwn_eq, first.number_eq, own, ih]

namespace State

theorem isOwn_of_mem_foreign {state : State} {handler : Handler}
    (member : handler ∈ state.foreign) : handler.isOwn = false := by
  have passed := (List.mem_filter.mp member).2
  simpa using passed

theorem eq_of_continues_made {count : Nat} {toConsole : Bool} {threshold : Threshold}
    {writer : Writer} {kept later : List Handler}
    (foreign : ∀ handler ∈ kept, handler.isOwn = false)
    (continues : List.Forall₂ Handler.Continues
      (kept ++ madeHandlers count toConsole threshold writer) later) :
    ∃ next, writer.Continues next ∧
      later = kept ++ madeHandlers count toConsole threshold next := by
  induction kept generalizing later with
  | nil =>
      rw [List.nil_append, madeHandlers] at continues
      cases continues with
      | cons first rest =>
          obtain ⟨next, becomes, rfl⟩ := first.exists_writer
          refine ⟨next, becomes, ?_⟩
          cases toConsole with
          | false =>
              cases rest
              rfl
          | true =>
              cases rest with
              | cons second none =>
                  cases none
                  rw [second.eq_of_console]
                  rfl
  | cons handler kept ih =>
      cases continues with
      | cons first rest =>
          obtain ⟨next, becomes, rfl⟩ := ih (fun other member =>
            foreign other (List.mem_cons_of_mem handler member)) rest
          rw [first.eq_of_foreign (foreign handler List.mem_cons_self)]
          exact ⟨next, becomes, rfl⟩

/-- What a start leaves behind: the handlers of others, and behind them its own. -/
structure Restarts (state : State) (program : Program) (options : Options) (threshold : Threshold)
    (writer : Writer) (later : State) : Prop where
  directory : writer.directory = Log.directory program options.directory
  label : writer.label = options.label
  limit : writer.limit = options.limit
  handlers : later.handlers =
    state.foreign ++ madeHandlers state.count options.toConsole threshold writer
  closed : later.closed = state.spent
  count : later.count =
    state.count + (madeHandlers state.count options.toConsole threshold writer).length

variable {program : Program} {options : Options} {threshold : Threshold} {state later : State}

theorem exists_prepared
    (read : Threshold.read program.environment options.threshold = .ok threshold) (now : Moment)
    (state : State) :
    ∃ (prepared : State) (writer : Writer),
      start program options now state = .ok (prepared.record program
        (startEntry options.label (directory program options.directory) threshold) now) ∧
      state.Restarts program options threshold writer prepared := by
  rw [start, read]
  let begun := (Writer.begin (directory program options.directory) options.label options.limit now
    state.disk).1
  cases toConsole : options.toConsole with
  | false =>
      exact ⟨_, begun, rfl, rfl, rfl, rfl, by rw [toConsole]; rfl, rfl, by rw [toConsole]; rfl⟩
  | true =>
      refine ⟨_, begun, rfl, rfl, rfl, rfl, ?_, rfl, by rw [toConsole]; rfl⟩
      rw [toConsole]
      exact List.append_assoc _ _ _

theorem Restarts.record {writer : Writer}
    (restarts : state.Restarts program options threshold writer later) (entry : Entry)
    (now : Moment) :
    ∃ next, state.Restarts program options threshold next (later.record program entry now) := by
  obtain ⟨continues, closed, count⟩ := record_continues now program entry later
  rw [restarts.handlers] at continues
  obtain ⟨next, becomes, handlers⟩ :=
    eq_of_continues_made (fun handler => isOwn_of_mem_foreign) continues
  exact ⟨next, becomes.directory.trans restarts.directory, becomes.label.trans restarts.label,
    becomes.limit.trans restarts.limit, handlers, closed.trans restarts.closed,
    count.trans restarts.count⟩

/-- A start that succeeds knows its threshold and puts its handlers behind those of others. -/
theorem restarts_of_start {now : Moment} (started : start program options now state = .ok later) :
    ∃ threshold writer, Threshold.read program.environment options.threshold = .ok threshold ∧
      state.Restarts program options threshold writer later := by
  cases read : Threshold.read program.environment options.threshold with
  | error fault =>
      rw [start, read] at started
      cases started
  | ok threshold =>
      obtain ⟨prepared, begun, ready, restarts⟩ := exists_prepared read now state
      rw [ready] at started
      obtain rfl := Except.ok.inj started
      obtain ⟨writer, reported⟩ := restarts.record _ now
      exact ⟨threshold, writer, rfl, reported⟩

end State

end AuditTrail.Log
