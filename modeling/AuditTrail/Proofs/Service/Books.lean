import AuditTrail.Proofs.Service.Settings

/-!
# The books of sessions

What the service does with its sessions is kept in books: their lives, their number, and those that
are in a transaction.  Work in a session adds the statements that it executes there, and nothing
else.
-/

namespace AuditTrail.Service

/-- Whether an event is part of the life of a session. -/
def Event.isOfSession : Event → Bool
  | opened .. | executed _ | rolledBack _ | closed _ => true
  | _ => false

/-- The events of work in a session that is in a transaction before or not. -/
def Event.visit (session count : Nat) (fails transacts : Bool) : List Event :=
  List.replicate count (executed session) ++
    if fails && (transacts || 0 < count) then [rolledBack session] else []

/-- Whether events are those of work in a session. -/
def Event.AreUse (session : Nat) (use : List Event) : Prop :=
  ∀ e ∈ use, e = executed session ∨ e = rolledBack session

theorem Event.areUse_visit (session count : Nat) (fails transacts : Bool) :
    AreUse session (visit session count fails transacts) := by
  intro e member
  rcases List.mem_append.mp member with statement | returned
  · exact .inl (List.eq_of_mem_replicate statement)
  · split at returned
    · exact .inr (List.mem_singleton.mp returned)
    · cases returned

theorem Event.AreUse.append {session : Nat} {first last : List Event}
    (front : AreUse session first) (back : AreUse session last) :
    AreUse session (first ++ last) := by
  intro e member
  rcases List.mem_append.mp member with before | behind
  · exact front e before
  · exact back e behind

/-- The life of a session, from its opening to its close. -/
def Event.life (session engine : Nat) (use : List Event) : List Event :=
  opened session engine :: use ++ [closed session]

/-- What is known of sessions. -/
structure Books where
  /-- Their lives. -/
  lives : List Event
  /-- Their number so far. -/
  count : Nat
  /-- Those that are in a transaction. -/
  busy : List Nat

/-- The books of a state. -/
def State.books (state : State) : Books where
  lives := state.journal.events.filter Event.isOfSession
  count := state.sessionCount
  busy := state.inTransaction

/-- The books, and what sessions are taken from. -/
def State.account (state : State) :
    Books × List Context × Option Nat × Option Nat × Option Registry :=
  (state.books, Action.leases state)

namespace Books

/-- A new session is opened. -/
def opened (books : Books) (engine : Nat) : Books where
  lives := books.lives ++ [.opened (books.count + 1) engine]
  count := books.count + 1
  busy := books.busy

/-- A number of statements is executed in a session. -/
def used (books : Books) (session count : Nat) : Books where
  lives := books.lives ++ List.replicate count (.executed session)
  count := books.count
  busy := if count = 0 ∨ session ∈ books.busy then books.busy else session :: books.busy

/-- The transaction of a session is taken back, if it is in one. -/
def rolledBack (books : Books) (session : Nat) : Books :=
  if session ∈ books.busy then
    { books with
      lives := books.lives ++ [.rolledBack session]
      busy := books.busy.filter (· != session) }
  else books

/-- A session is closed. -/
def closed (books : Books) (session : Nat) : Books where
  lives := books.lives ++ [.closed session]
  count := books.count
  busy := books.busy.filter (· != session)

/-- Work in a session: it executes a number of statements, and if it fails its transaction is taken
back. -/
def visited (books : Books) (session count : Nat) (fails : Bool) : Books :=
  if fails then (books.used session count).rolledBack session else books.used session count

@[simp]
theorem used_zero (books : Books) (session : Nat) : books.used session 0 = books := by
  simp [used]

theorem used_used (books : Books) (session first second : Nat) :
    (books.used session first).used session second = books.used session (first + second) := by
  by_cases busy : session ∈ books.busy
  · simp [used, busy, List.append_assoc]
  · by_cases none : first = 0
    · simp [used, none]
    · simp [used, busy, none, List.append_assoc]

@[simp]
theorem count_visited (books : Books) (session count : Nat) (fails : Bool) :
    (books.visited session count fails).count = books.count := by
  rw [visited]
  split
  · rw [rolledBack]
    split <;> rfl
  · rfl

theorem mem_busy_used {books : Books} {session count : Nat} :
    session ∈ (books.used session count).busy ↔ session ∈ books.busy ∨ 0 < count := by
  rw [used]
  dsimp only
  split
  · next idle => rcases idle with none | inside <;> simp [*]
  · next works =>
      simp only [List.mem_cons, true_or, true_iff]
      omega

theorem lives_visited (books : Books) (session count : Nat) (fails : Bool) :
    (books.visited session count fails).lives =
      books.lives ++ Event.visit session count fails (decide (session ∈ books.busy)) := by
  cases fails with
  | false => simp [visited, Event.visit, used]
  | true =>
      rw [visited, if_pos rfl, rolledBack]
      by_cases busy : session ∈ books.busy ∨ 0 < count
      · rw [if_pos (mem_busy_used.mpr busy)]
        simp [used, Event.visit, busy]
      · rw [if_neg (mt mem_busy_used.mp busy)]
        simp [used, Event.visit, busy]

/-- Whoever is in a transaction beside a session stays in it. -/
theorem filter_busy_visited (books : Books) (session count : Nat) (fails : Bool) :
    (books.visited session count fails).busy.filter (· != session) =
      books.busy.filter (· != session) := by
  have used : (books.used session count).busy.filter (· != session) =
      books.busy.filter (· != session) := by
    rw [Books.used]
    dsimp only
    split <;> simp
  rw [visited]
  split
  · rw [rolledBack]
    split
    · simp [used]
    · exact used
  · exact used

end Books

namespace Action

variable {α β : Type}

/-- Work that does nothing with sessions but execute statements in one of them. -/
def IsConfined (session : Nat) (work : Action α) : Prop :=
  ∀ state, ∃ count, (work.runFrom state).2.account =
    (state.books.used session count, leases state)

namespace IsConfined

variable {session : Nat}

theorem of_keeps {work : Action α} (kept : Keeps State.account work) :
    IsConfined session work := by
  intro state
  refine ⟨0, ?_⟩
  rw [Books.used_zero]
  exact kept state

theorem bind {first : Action α} {next : α → Action β} (begun : IsConfined session first)
    (gone : ∀ value, IsConfined session (next value)) : IsConfined session (first >>= next) := by
  intro state
  obtain ⟨count, used⟩ := begun state
  rw [runFrom_bind]
  generalize first.runFrom state = done at used
  obtain ⟨fault | value, middle⟩ := done
  · exact ⟨count, used⟩
  · obtain ⟨more, usedMore⟩ := gone value middle
    refine ⟨count + more, usedMore.trans ?_⟩
    obtain ⟨books, leased⟩ := Prod.mk.inj used
    rw [books, leased, Books.used_used]

theorem pure (value : α) : IsConfined session (pure value : Action α) := of_keeps (.pure value)

theorem ofExcept (result : Except Fault α) : IsConfined session (ofExcept result : Action α) :=
  of_keeps (.ofExcept result)

end IsConfined

theorem keeps_account_log (level : Level) (source : Source) (message : List Char) :
    Keeps State.account (log level source message) :=
  keeps_note fun _ => rfl

theorem keeps_account_ask (statement : Sql.Statement) : Keeps State.account (ask statement) :=
  .get_bind fun _ => .bind (keeps_note fun _ => rfl) fun _ => .ofExcept _

theorem keeps_account_activeSearchConfiguration :
    Keeps State.account activeSearchConfiguration := by
  have stored : Keeps State.account storedSearchConfiguration := by
    intro state
    obtain ⟨entries, read⟩ := storedSearchConfiguration_runFrom state
    rw [read]
    rfl
  refine .bind (fun state => ?_) fun setting => ?_
  · rw [applicationSetting_runFrom]
  · split
    · split
      · exact stored
      · exact .pure _
    · exact stored

theorem isConfined_execute (session : Nat) (statement : Sql.Statement) :
    IsConfined session (execute (.numbered session) statement) := by
  have noted : IsConfined session (do
      event (.executed session)
      update fun state => { state with
        inTransaction := if state.inTransaction.contains session then state.inTransaction
          else session :: state.inTransaction }) := by
    intro state
    refine ⟨1, Prod.ext ?_ rfl⟩
    change Books.mk _ _ _ = Books.mk _ _ _
    simp [event, note, runFrom_bind, State.books, Event.isOfSession]
  have asked := noted.bind fun _ => .of_keeps (keeps_account_ask statement)
  exact asked

theorem isConfined_countAndFetch (session : Nat) (select : List Char)
    (clauses : List (List Char)) (bindings : Sql.Bindings) (key : Sql.SortKey)
    (window : Sql.Window) :
    IsConfined session (countAndFetch (.numbered session) select clauses bindings key window) :=
  .bind (isConfined_execute session _) fun _ => .bind (isConfined_execute session _) fun _ =>
    .bind (.ofExcept _) fun _ => .bind (.ofExcept _) fun _ => .pure _

theorem isConfined_listIn (session : Nat) (request : PageRequest) :
    IsConfined session (listIn (.numbered session) request) :=
  .bind (.ofExcept _) fun _ => isConfined_countAndFetch session _ _ _ _ _

theorem isConfined_runStrategy (session : Nat) (query : Option String) (request : PageRequest)
    (strategy : Strategy) :
    IsConfined session (runStrategy query request (.numbered session) strategy) := by
  have logged (level : Level) (source : Source) (message : List Char) :
      IsConfined session (log level source message) := .of_keeps (keeps_account_log _ _ _)
  cases strategy with
  | listing => exact isConfined_listIn session request
  | columns conditions =>
      exact .bind (logged _ _ _) fun _ => .bind (.ofExcept _) fun _ => .bind (.ofExcept _)
        fun _ => isConfined_countAndFetch session _ _ _ _ _
  | fullText expression =>
      exact .bind (logged _ _ _) fun _ =>
        .bind (.of_keeps keeps_account_activeSearchConfiguration) fun _ => .bind (.ofExcept _)
        fun _ => isConfined_countAndFetch session _ _ _ _ _
  | nothing => exact .bind (logged _ _ _) fun _ => .pure _

/-- Looking up a record in a session. -/
def recordIn (handle : Handle) (identifier : Value) : Action (Option Row) := do
  let id ← ofExcept (match identifier.toInt with
    | .ok n => Except.ok n
    | .error cause => Except.error (Fault.unconvertible cause))
  let answer ← execute handle (Sql.recordStatement id)
  match answer.rows with
  | row :: _ => some <$> ofExcept (row.record answer.room)
  | [] =>
    log .debug .records
      ("audit log ".toList ++ identifier.display ++ " not found".toList)
    pure none

theorem isConfined_recordIn (session : Nat) (identifier : Value) :
    IsConfined session (recordIn (.numbered session) identifier) := by
  refine .bind (.ofExcept _) fun id => .bind (isConfined_execute session _) fun answer => ?_
  split
  · exact .bind (.ofExcept _) fun _ => .pure _
  · exact .bind (.of_keeps (keeps_account_log _ _ _)) fun _ => .pure _

end Action

end AuditTrail.Service
