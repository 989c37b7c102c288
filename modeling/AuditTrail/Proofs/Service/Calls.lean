import AuditTrail.Proofs.Service.Release

/-!
# Calls in and outside of requests

A call outside a request opens one session and closes it; the calls of a request are all made in
one session, which none of them closes.  After a call outside a request, and after a request, every
session that was opened is closed.
-/

namespace AuditTrail.Service

open Service.Action

/-- A call that is not given a session. -/
inductive Call where
  | search (query : Option String) (request : PageRequest)
  | list (request : PageRequest)
  | record (identifier : Value)

namespace Call

/-- What a call results in. -/
abbrev Result : Call → Type
  | search .. => Page
  | list _ => Page
  | record _ => Option Row

/-- What a call does. -/
def action : (call : Call) → Action call.Result
  | search query request => Action.search false query request
  | list request => Action.list false request
  | record identifier => Action.record? false identifier

/-- The work of a call in a session. -/
def work : (call : Call) → Handle → Action call.Result
  | search query request => fun handle =>
    runStrategy query request handle (Strategy.ofQuery query)
  | list request => fun handle => listIn handle request
  | record identifier => fun handle => recordIn handle identifier

/-- A call does its work in a session. -/
theorem action_runFrom (call : Call) (state : State) :
    ∃ entries, call.action.runFrom state =
      (withSession call.work).runFrom (state.logged entries) := by
  cases call with
  | search query request => exact search_runFrom false query request state
  | list request => exact ⟨state.journal.entries, rfl⟩
  | record identifier => exact ⟨state.journal.entries, rfl⟩

theorem isConfined_work (call : Call) (session : Nat) :
    IsConfined session (call.work (.numbered session)) := by
  cases call with
  | search query request => exact isConfined_runStrategy session query request _
  | list request => exact isConfined_listIn session request
  | record identifier => exact isConfined_recordIn session identifier

/-- A call has a session of its own, which is closed exactly when the work ends: if that fails, its
transaction is taken back before, and its fault is the outcome.  Only where no session can be had,
none is opened. -/
def HasOwnSession (call : Call) (before : State) : Prop :=
  let session := before.sessionCount + 1
  ∃ outcome later, call.action.runFrom before = (outcome, later) ∧
    ((¬ CanOpen false before ∧ (∃ fault, outcome = .error fault) ∧
        later.books.lives = before.books.lives) ∨
      ∃ engine count opened, opened.view = before.view ∧
        outcome = ((call.work (.numbered session)).runFrom opened).1 ∧
        later.books.lives = before.books.lives ++
          Event.life session engine (Event.visit session count (isFault outcome) false))

/-- A call of a request runs in the session of the request: it opens that one if the request has
none yet, and it closes none.  If the work fails, the transaction is taken back, and the fault is
the outcome. -/
def SharesSession (call : Call) (session : Nat) (before : State) : Prop :=
  ∃ outcome later, call.action.runFrom before = (outcome, later) ∧
    ((¬ CanOpen false before ∧ (∃ fault, outcome = .error fault) ∧
        later.books.lives = before.books.lives) ∨
      ∃ opening count opened, opened.view = before.view ∧
        outcome = ((call.work (.numbered session)).runFrom opened).1 ∧
        (opening = [] ∨ ∃ engine, opening = [.opened session engine]) ∧
        later.books.lives = before.books.lives ++ opening ++
          Event.visit session count (isFault outcome)
            (decide (session ∈ before.inTransaction)))

end Call

/-- Lives of sessions that are all over: each session is opened, used and closed before the next one
is opened. -/
inductive AreOver : List Event → Nat → Prop where
  | none : AreOver [] 0
  | next (lives : List Event) (count engine : Nat) (use : List Event)
      (earlier : AreOver lives count) (own : Event.AreUse (count + 1) use) :
      AreOver (lives ++ Event.life (count + 1) engine use) (count + 1)

/-- A state in which no session is open and no request is running. -/
structure State.IsSettled (state : State) : Prop where
  contexts : state.contexts = []
  current : state.current = none
  engined : state.registry.isSome → state.engine.isSome
  past : AreOver state.books.lives state.books.count
  idle : state.inTransaction = []

theorem State.isSettled_initial (environment : Environment) (files : Files) (store : Store) :
    (State.initial environment files store).IsSettled where
  contexts := rfl
  current := rfl
  engined := by simp [State.initial]
  past := .none
  idle := rfl

theorem Event.count_closed_life {session engine : Nat} {use : List Event}
    (own : AreUse session use) (other : Nat) :
    (life session engine use).count (closed other) = if session = other then 1 else 0 := by
  have unused : use.count (closed other) = 0 := by
    rw [List.count_eq_zero]
    intro closes
    rcases own _ closes with absurdity | absurdity <;> cases absurdity
  simp [life, List.count_append, List.count_cons, unused]

theorem Event.mem_opened_life {session engine : Nat} {use : List Event}
    (own : AreUse session use) {other second : Nat} :
    opened other second ∈ life session engine use ↔ other = session ∧ second = engine := by
  have unused : opened other second ∉ use := by
    intro opens
    rcases own _ opens with absurdity | absurdity <;> cases absurdity
  simp [life, unused]

/-- Sessions whose lives are over were closed exactly once. -/
theorem AreOver.count_closed {lives : List Event} {count : Nat} (earlier : AreOver lives count)
    (session : Nat) :
    lives.count (.closed session) = if 1 ≤ session ∧ session ≤ count then 1 else 0 := by
  induction earlier with
  | none =>
      rw [if_neg (by omega)]
      rfl
  | next lives count engine use earlier own ih =>
      rw [List.count_append, ih, Event.count_closed_life own]
      by_cases here : count + 1 = session
      · rw [if_neg (by omega), if_pos here, if_pos (by omega)]
      · have same : 1 ≤ session ∧ session ≤ count ↔ 1 ≤ session ∧ session ≤ count + 1 := by omega
        simp only [here, same, ↓reduceIte, Nat.add_zero]

/-- Every session was numbered when it was opened. -/
theorem AreOver.numbered {lives : List Event} {count : Nat} (earlier : AreOver lives count)
    {session engine : Nat} (opened : Event.opened session engine ∈ lives) :
    1 ≤ session ∧ session ≤ count := by
  induction earlier with
  | none => cases opened
  | next lives count other use earlier own ih =>
      rcases List.mem_append.mp opened with before | here
      · have within := ih before
        omega
      · obtain ⟨rfl, _⟩ := (Event.mem_opened_life own).mp here
        omega

variable {state : State} {before books : Books} {settings : List (String × Value)}

theorem State.IsSettled.isAt (settled : state.IsSettled) : state.IsAt state.books [] none :=
  ⟨rfl, settled.contexts, settled.current, settled.engined⟩

theorem State.IsAt.logged {contexts : List Context} {current : Option Nat}
    (stands : state.IsAt books contexts current) (entries : List LogEntry) :
    (state.logged entries).IsAt books contexts current :=
  ⟨stands.books, stands.contexts, stands.current, stands.engined⟩

/-- With the same books, and nothing lent or kept, all is as settled as before. -/
theorem State.IsSettled.of_isAt (settled : state.IsSettled) {later : State}
    (stands : later.IsAt state.books [] none) : later.IsSettled where
  contexts := stands.contexts
  current := stands.current
  engined := stands.engined
  past := stands.books ▸ settled.past
  idle := (congrArg Books.busy stands.books).trans settled.idle

/-- The state after the next session has lived. -/
theorem State.IsSettled.next (settled : state.IsSettled) {later : State} {engine : Nat}
    {use : List Event} (own : Event.AreUse (state.books.count + 1) use)
    (stands : later.IsAt books [] none)
    (lives : books.lives = state.books.lives ++ Event.life (state.books.count + 1) engine use)
    (count : books.count = state.books.count + 1) (idle : books.busy = []) :
    later.IsSettled where
  contexts := stands.contexts
  current := stands.current
  engined := stands.engined
  past := by
    rw [stands.books, lives, count]
    exact .next _ _ engine use settled.past own
  idle := (congrArg Books.busy stands.books).trans idle

/-- A call outside a request has a session of its own, and leaves none open. -/
theorem Call.hasOwnSession (call : Call) (settled : state.IsSettled) :
    call.HasOwnSession state ∧ (call.action.runFrom state).2.IsSettled := by
  obtain ⟨entries, calls⟩ := call.action_runFrom state
  obtain ⟨outcome, later, runs, ends⟩ :=
    withSession_own call.isConfined_work (settled.isAt.logged entries)
  rw [runs] at calls
  rcases ends with ⟨closed, failed, stands⟩ | ⟨engine, count, opened, view, works, stands⟩
  · refine ⟨⟨outcome, later, calls, .inl ⟨fun opens => closed (opens entries), failed, ?_⟩⟩, ?_⟩
    · rw [stands.books]
    · rw [calls]
      exact settled.of_isAt stands
  · have idle : state.books.busy = [] := settled.idle
    have lives : later.books.lives = state.books.lives ++ Event.life (state.books.count + 1) engine
        (Event.visit (state.books.count + 1) count (isFault outcome) false) := by
      rw [stands.books, Books.closed, Books.lives_visited]
      simp [Books.opened, Event.life, idle]
    refine ⟨⟨outcome, later, calls, .inr ⟨engine, count, opened, view, works, lives⟩⟩, ?_⟩
    rw [calls]
    refine settled.next (Event.areUse_visit _ _ _ _) stands (stands.books ▸ lives) ?_ ?_
    · simp [Books.closed, Books.opened]
    · rw [Books.closed]
      dsimp only
      rw [Books.filter_busy_visited]
      simp [Books.opened, idle]

/-! ## Requests -/

/-- Books in which the next session has been opened since, has been used and is not closed. -/
structure Books.IsLent (before : Books) (engine : Nat) (use : List Event) (books : Books) :
    Prop where
  lives : books.lives = before.lives ++ .opened (before.count + 1) engine :: use
  own : Event.AreUse (before.count + 1) use
  count : books.count = before.count + 1
  busy : books.busy.filter (· != before.count + 1) = before.busy.filter (· != before.count + 1)

theorem Books.isLent_opened (before : Books) (engine : Nat) :
    before.IsLent engine [] (before.opened engine) where
  lives := rfl
  own := nofun
  count := rfl
  busy := rfl

/-- Work in the session that is lent is part of its use. -/
theorem Books.IsLent.visited {engine : Nat} {use : List Event}
    (lent : before.IsLent engine use books) (count : Nat) (fails : Bool) :
    before.IsLent engine
      (use ++ Event.visit (before.count + 1) count fails
        (decide (before.count + 1 ∈ books.busy)))
      (books.visited (before.count + 1) count fails) where
  lives := by
    rw [lives_visited, lent.lives]
    simp
  own := lent.own.append (Event.areUse_visit _ _ _ _)
  count := by rw [count_visited, lent.count]
  busy := by rw [filter_busy_visited, lent.busy]

/-- Where a request stands that has made some calls: it has no session yet, or it has been lent the
session that follows those before it, and that one has not been closed. -/
inductive IsInside (before : Books) (settings : List (String × Value)) (state : State) : Prop where
  | fresh (stands : state.IsAt before [⟨none, settings⟩] none)
  | lent (books : Books) (engine : Nat) (use : List Event)
      (stands : state.IsAt books [⟨some (before.count + 1), settings⟩] (some (before.count + 1)))
      (lent : before.IsLent engine use books)

/-- Every call of a request shares the session of the request. -/
theorem Call.sharesSession (call : Call) (inside : IsInside before settings state) :
    call.SharesSession (before.count + 1) state ∧
      IsInside before settings (call.action.runFrom state).2 := by
  obtain ⟨entries, calls⟩ := call.action_runFrom state
  cases inside with
  | fresh stands =>
      have busy : state.inTransaction = before.busy := congrArg Books.busy stands.books
      obtain ⟨outcome, later, runs, ends⟩ :=
        withSession_fresh call.isConfined_work (stands.logged entries)
      rw [calls, runs]
      rcases ends with ⟨closed, failed, same⟩ | ⟨engine, count, opened, view, works, _, lent⟩
      · refine ⟨⟨outcome, later, calls.trans runs, .inl ⟨?_, failed, ?_⟩⟩, .fresh same⟩
        · exact fun opens => closed (opens entries)
        · rw [same.books, stands.books]
      · have visited := (before.isLent_opened engine).visited count (isFault outcome)
        refine ⟨⟨outcome, later, calls.trans runs,
          .inr ⟨_, count, opened, view, works, .inr ⟨engine, rfl⟩, ?_⟩⟩, .lent _ _ _ lent visited⟩
        rw [lent.books, Books.lives_visited, stands.books, busy]
        rfl
  | lent books engine use stands lent =>
      have busy : state.inTransaction = books.busy := congrArg Books.busy stands.books
      obtain ⟨outcome, count, later, works, runs, visited⟩ :=
        withSession_lent (call.isConfined_work _) (stands.logged entries)
      rw [calls, runs]
      refine ⟨⟨outcome, later, calls.trans runs,
        .inr ⟨[], count, state.logged entries, rfl, works, .inl rfl, ?_⟩⟩,
        .lent _ _ _ visited (lent.visited count (isFault outcome))⟩
      rw [visited.books, Books.lives_visited, stands.books, busy, List.append_nil]

theorem State.IsSettled.entered (settled : state.IsSettled) (settings : List (String × Value)) :
    IsInside state.books settings (state.entered settings) := by
  refine .fresh ⟨rfl, ?_, settled.current, settled.engined⟩
  rw [State.entered, settled.contexts]

theorem IsInside.of_account {later : State} (inside : IsInside before settings state)
    (same : later.account = state.account) : IsInside before settings later := by
  cases inside with
  | fresh stands =>
      exact .fresh (stands.of_account (same.trans (congrArg (·, leases state) stands.books)))
  | lent books engine use stands lent =>
      exact .lent books engine use
        (stands.of_account (same.trans (congrArg (·, leases state) stands.books))) lent

/-- A session that is lent has an engine, so that none is created beside it. -/
theorem IsInside.preserved_engine : Preserves (IsInside before settings) engine := by
  intro state inside
  cases inside with
  | fresh stands =>
      obtain ⟨outcome, later, finds, _, same⟩ := engine_isAt stands
      rw [finds]
      exact .fresh same
  | lent books engine use stands lent =>
      have registered : state.registry.isSome := by
        have held := stands.current
        rw [State.current, Option.bind_eq_some_iff] at held
        obtain ⟨registry, kept, _⟩ := held
        rw [kept]
        rfl
      obtain ⟨number, there⟩ := Option.isSome_iff_exists.mp (stands.engined registered)
      have found : Action.engine.runFrom state = (.ok number, state) := by
        rw [Action.engine, runFrom_bind_of_ok (runFrom_get state), there, runFrom_pure]
      rw [found]
      exact .lent books engine use stands lent

theorem IsInside.preserved_ping : Preserves (IsInside before settings) ping := by
  have aside {α : Type} {action : Action α} (kept : Keeps State.account action) :
      Preserves (IsInside before settings) action :=
    .of_keeps kept fun _ _ same inside => inside.of_account same
  have connected (number : Nat) : Keeps State.account (event (.connected number)) :=
    keeps_note fun state => Prod.ext (by simp [State.account, State.books, Event.isOfSession]) rfl
  have reaches : Preserves (IsInside before settings) connect := by
    refine .bind preserved_engine fun number => .bind (aside (connected number)) fun _ =>
      .get_bind fun state => ?_
    split
    · exact .throw _
    · exact .pure _
  refine .bind (.attempt (.bind reaches fun _ =>
    .bind (aside (keeps_account_ask _)) fun _ => .pure _)) fun outcome => ?_
  split
  · exact .pure _
  · exact .bind (aside (keeps_note fun _ => rfl)) fun _ => .pure _

/-- The states of a request: it has entered its context, has made calls and asked whether the store
can be reached, and has done what has nothing to do with sessions. -/
inductive InRequest (start : State) (settings : List (String × Value)) : State → Prop where
  | entered : InRequest start settings (start.entered settings)
  | aside {state later : State} (inside : InRequest start settings state)
      (same : later.account = state.account) : InRequest start settings later
  | call {state : State} (inside : InRequest start settings state) (call : Call) :
      InRequest start settings (call.action.runFrom state).2
  | ping {state : State} (inside : InRequest start settings state) :
      InRequest start settings (ping.runFrom state).2

/-- A request stays in its session, whatever it does. -/
theorem InRequest.isInside {start : State} (settled : start.IsSettled)
    (reached : InRequest start settings state) : IsInside start.books settings state := by
  induction reached with
  | entered => exact settled.entered settings
  | aside _ same inside => exact inside.of_account same
  | call _ call inside => exact (call.sharesSession inside).2
  | ping _ inside => exact IsInside.preserved_ping _ inside

/-- Ending a request that started in a state closes the session that it was lent since, if it was
lent one, and leaves none open. -/
def EndsSession (start inside : State) : Prop :=
  let session := start.sessionCount + 1
  (do cleanUp; leave : Action Unit).runFrom inside = (.ok (), inside.released) ∧
    inside.released.IsSettled ∧
    ((inside.books.lives = start.books.lives ∧
        inside.released.books.lives = start.books.lives) ∨
      ∃ engine use, Event.AreUse session use ∧
        inside.books.lives = start.books.lives ++ .opened session engine :: use ∧
        inside.released.books.lives = start.books.lives ++ Event.life session engine use)

theorem IsInside.endsSession {start : State} (settled : start.IsSettled)
    (inside : IsInside start.books settings state) : EndsSession start state := by
  have ends := release_runFrom (pure ()) state
  refine ⟨by simpa using ends, ?_⟩
  cases inside with
  | fresh stands =>
      have ended := stands.released_free
      exact ⟨settled.of_isAt ended,
        .inl ⟨congrArg Books.lives stands.books, congrArg Books.lives ended.books⟩⟩
  | lent books engine use stands lent =>
      have ended := stands.released_lent
      have idle : start.books.busy = [] := settled.idle
      have lived : (books.closed (start.books.count + 1)).lives =
          start.books.lives ++ Event.life (start.books.count + 1) engine use := by
        rw [Books.closed, lent.lives]
        simp [Event.life]
      refine ⟨settled.next lent.own ended lived lent.count ?_, .inr ⟨engine, use, lent.own, ?_, ?_⟩⟩
      · exact lent.busy.trans (by rw [idle]; rfl)
      · exact (congrArg Books.lives stands.books).trans lent.lives
      · exact (congrArg Books.lives ended.books).trans lived

end AuditTrail.Service
