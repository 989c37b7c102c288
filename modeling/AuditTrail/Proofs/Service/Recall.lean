import AuditTrail.Proofs.Service.Alike
import AuditTrail.Proofs.Service.Configuration
import AuditTrail.Proofs.Service.Disregard
import AuditTrail.Proofs.Service.Window

/-!
# The configuration that a run keeps

The text search configuration of the file is read when a text search needs it, and kept from then on
as soon as that succeeds, however the file changes.  Which search that is depends on the whole run
so far, as nothing but a text search without a configuration of its application needs it.  A file
that is nested too deeply to be read names the usual configuration, and that is kept like any other.
-/

namespace AuditTrail.Service

open Text Query Sql

/-- The text search configuration of the innermost request's application, if it has one. -/
def View.ownConfiguration (view : View) : Option String :=
  match view.setting "TEXT_SEARCH_CONFIG" with
  | .text configuration => if configuration.isEmpty then none else some configuration
  | _ => none

theorem View.configuration_eq_elim (view : View) :
    view.configuration = view.ownConfiguration.elim view.storedConfiguration .ok := by
  rw [configuration, ownConfiguration]
  cases view.setting "TEXT_SEARCH_CONFIG" with
  | text configuration =>
      by_cases empty : configuration.isEmpty
      · simp only [empty, if_true, Option.elim_none]
      · simp only [empty, Bool.false_eq_true, if_false, Option.elim_some]
  | _ => rfl

namespace Action

variable {α β : Type} {state : State} {query : Option String}

theorem uniform_opening : Uniform opening := by
  refine .get_bind (fun _ => rfl) fun state => ?_
  split
  · exact uniform_ownSession
  · exact uniform_requestSession

/-- Whether work gets a session does not depend on what is logged before. -/
theorem opens_logged_iff {given : Bool} {entries : List LogEntry} :
    Opens given (state.logged entries) ↔ Opens given state := by
  have same := (uniform_opening (state.logged entries) state rfl).1
  refine or_congr_right ?_
  cases first : opening.runFrom (state.logged entries) with
  | mk one middle =>
      cases second : opening.runFrom state with
      | mk other later =>
          rw [first, second] at same
          cases one <;> cases other <;> simp_all [Except.toOption]

instance (given : Bool) (state : State) : Decidable (Opens given state) :=
  decidable_of_iff ((given || (opening.runFrom state).1.toOption.isSome) = true) <| by
    cases first : opening.runFrom state with
    | mk outcome later => cases outcome <;> simp [Opens, first, Except.toOption]

theorem runFrom_bind_congr {first : Action α} {next other : α → Action β}
    (same : ∀ value later, first.runFrom state = (.ok value, later) →
      (next value).runFrom later = (other value).runFrom later) :
    (first >>= next).runFrom state = (first >>= other).runFrom state := by
  rw [runFrom_bind, runFrom_bind]
  cases done : first.runFrom state with
  | mk outcome later =>
      cases outcome with
      | error fault => rfl
      | ok value => exact same value later done

/-- Work that does the same in all states with one view does the same in a session. -/
theorem inSession_congr (given : Bool) {work other : Handle → Action α}
    (same : ∀ handle later, later.view = state.view →
      (work handle).runFrom later = (other handle).runFrom later) :
    (inSession given work).runFrom state = (inSession given other).runFrom state := by
  have guards (session : Nat) (later : State) (kept : later.view = state.view) :
      (guarded session work).runFrom later = (guarded session other).runFrom later := by
    rw [guarded, guarded, runFrom_bind_of_ok (runFrom_attempt _ _),
      runFrom_bind_of_ok (runFrom_attempt _ _), same _ later kept]
  cases given with
  | true => exact same .given state rfl
  | false =>
      change (withSession work).runFrom state = (withSession other).runFrom state
      rw [withSession, withSession, runFrom_bind_of_ok (runFrom_get state),
        runFrom_bind_of_ok (runFrom_get state)]
      split
      · refine runFrom_bind_congr fun session later opened => ?_
        have kept := (keeps_ownSession.map Prod.fst) state
        rw [opened] at kept
        rw [runFrom_bind_of_ok (runFrom_attempt _ _), runFrom_bind_of_ok (runFrom_attempt _ _),
          guards session later kept]
      · refine runFrom_bind_congr fun session later opened => guards session later ?_
        have kept := keeps_requestSession state
        rwa [opened] at kept

/-- A page of what a text search finds under a configuration. -/
def searchTextUnder (configuration : String) (handle : Handle) (expression : List Char)
    (request : PageRequest) : Action Page := do
  let window ← ofExcept (Sql.window request.page request.size)
  countAndFetch handle selectRanked (matchClause :: request.range.clause?.toList)
    (("query", .text (String.ofList expression)) :: ("ts_config", .text configuration) ::
      request.range.bindings)
    (sortKey request.sort request.descending true) window

theorem searchText_eq (handle : Handle) (expression : List Char) (request : PageRequest) :
    searchText handle expression request = (do
      let configuration ← activeSearchConfiguration
      searchTextUnder configuration handle expression request) := rfl

theorem disregards_searchTextUnder (configuration : String) (handle : Handle)
    (expression : List Char) (request : PageRequest) :
    Disregards (searchTextUnder configuration handle expression request) :=
  .bind (.ofExcept _) fun _ => disregards_countAndFetch _ _ _ _ _ _

/-- The application's configuration is taken without looking any further. -/
theorem activeSearchConfiguration_of_own {configuration : String}
    (own : state.view.ownConfiguration = some configuration) :
    activeSearchConfiguration.runFrom state = (.ok configuration, state) := by
  rw [activeSearchConfiguration,
    runFrom_bind_of_ok (applicationSetting_runFrom "TEXT_SEARCH_CONFIG" state)]
  rw [View.ownConfiguration] at own
  cases set : state.view.setting "TEXT_SEARCH_CONFIG" with
  | text configured =>
      by_cases empty : configured.isEmpty
      · simp [set, empty] at own
      · obtain rfl : configured = configuration := by simpa [set, empty] using own
        simp [empty]
  | _ => simp [set] at own

theorem activeSearchConfiguration_of_none (own : state.view.ownConfiguration = none) :
    activeSearchConfiguration.runFrom state = storedSearchConfiguration.runFrom state := by
  rw [activeSearchConfiguration,
    runFrom_bind_of_ok (applicationSetting_runFrom "TEXT_SEARCH_CONFIG" state)]
  rw [View.ownConfiguration] at own
  cases set : state.view.setting "TEXT_SEARCH_CONFIG" with
  | text configured =>
      by_cases empty : configured.isEmpty
      · simp [empty]
      · simp [set, empty] at own
  | _ => rfl

/-- A text search under a configuration, with all that is logged around it. -/
def searchUnder (configuration : String) (given : Bool) (query : Option String)
    (expression : List Char) (request : PageRequest) : Action Page := do
  logIgnored query
  inSession given fun handle => do
    log .debug .search
      ("search_audit_logs: full-text strategy tsquery=".toList ++ quoted expression)
    searchTextUnder configuration handle expression request

theorem disregards_searchUnder (configuration : String) (given : Bool) (query : Option String)
    (expression : List Char) (request : PageRequest) :
    Disregards (searchUnder configuration given query expression request) :=
  .bind (disregards_logIgnored query) fun _ => disregards_inSession given fun _ =>
    .bind (disregards_log _ _ _) fun _ => disregards_searchTextUnder _ _ _ _

/-- A text search whose application has a configuration is one under that configuration. -/
theorem search_eq_searchUnder {configuration : String} {expression : List Char} (given : Bool)
    (request : PageRequest) (chosen : Strategy.ofQuery query = .fullText expression)
    (own : state.view.ownConfiguration = some configuration) :
    (search given query request).runFrom state =
      (searchUnder configuration given query expression request).runFrom state := by
  rw [search, chosen, searchUnder]
  refine runFrom_bind_congr fun _ later logs => inSession_congr given fun handle opened kept => ?_
  obtain ⟨entries, logged⟩ := logIgnored_runFrom query state
  obtain ⟨-, rfl⟩ := Prod.mk.inj (logged.symm.trans logs)
  rw [runStrategy, runFrom_bind_of_ok (log_runFrom _ _ _ opened),
    runFrom_bind_of_ok (log_runFrom _ _ _ opened), searchText_eq]
  generalize opened.journal.entries ++ _ = entries
  have same : (opened.logged entries).view = state.view := kept
  rw [runFrom_bind_of_ok (activeSearchConfiguration_of_own (same ▸ own))]

/-- A text search whose application has a configuration leaves the settings alone. -/
theorem disregardsAt_search_of_own (given : Bool) (request : PageRequest)
    (chosen : (Strategy.ofQuery query).IsFullText) (own : state.view.ownConfiguration.isSome) :
    (search given query request).DisregardsAt state := by
  intro file kept
  obtain ⟨expression, text⟩ := chosen.exists_expression
  obtain ⟨configuration, set⟩ := Option.isSome_iff_exists.mp own
  have elsewhere : (state.recalling file kept).view.ownConfiguration = some configuration := set
  rw [search_eq_searchUnder given request text set,
    search_eq_searchUnder given request text elsewhere]
  exact disregards_searchUnder _ _ _ _ _ state file kept

/-- A text search without such a configuration keeps that of the file, if it can be had. -/
theorem searchConfiguration_runStrategy (request : PageRequest) (handle : Handle)
    (expression : List Char) (own : state.view.ownConfiguration = none) :
    ((runStrategy query request handle (.fullText expression)).runFrom state).2.searchConfiguration
      = state.view.storedConfiguration.toOption := by
  rw [runStrategy, runFrom_bind_of_ok (log_runFrom _ _ _ state), searchText_eq]
  generalize state.journal.entries ++ _ = entries
  obtain ⟨more, stored⟩ := storedSearchConfiguration_runFrom (state.logged entries)
  have missing : (state.logged entries).view.ownConfiguration = none := own
  have active := (activeSearchConfiguration_of_none missing).trans stored
  rw [State.view_logged] at active
  cases had : state.view.storedConfiguration with
  | error fault =>
      rw [had] at active
      rw [runFrom_bind_of_error active]
  | ok configuration =>
      rw [had] at active
      rw [runFrom_bind_of_ok active]
      exact (disregards_searchTextUnder _ _ _ _ _).searchConfiguration_eq

/-- A search that gets no session reads nothing. -/
theorem search_of_not_opens {given : Bool} (request : PageRequest) (closed : ¬ Opens given state) :
    ((search given query request).runFrom state).2.view = state.view := by
  obtain ⟨entries, run⟩ := search_runFrom given query request state
  obtain ⟨-, fault, later, failed, ends⟩ :=
    inSession_of_not_opens (fun opens => closed (opens_logged_iff.mp opens)) fun handle =>
      runStrategy query request handle (Strategy.ofQuery query)
  have kept := keeps_opening (state.logged entries)
  rw [failed] at kept
  rw [run, ends]
  exact kept

theorem searchConfiguration_search {given : Bool} (request : PageRequest)
    (chosen : (Strategy.ofQuery query).IsFullText) (own : state.view.ownConfiguration = none)
    (opens : Opens given state) :
    ((search given query request).runFrom state).2.searchConfiguration =
      state.view.storedConfiguration.toOption := by
  obtain ⟨expression, text⟩ := chosen.exists_expression
  obtain ⟨entries, run⟩ := search_runFrom given query request state
  rw [run]
  rcases inSession_cases given _ (state.logged entries)
      (keeps_leases_runStrategy query request (Strategy.ofQuery query)) with
    ⟨_, _, _, _, closed⟩ | ⟨handle, opened, later, view, ends, left, _⟩
  · exact absurd (opens_logged_iff.mpr opens) closed
  · have missing : opened.view.ownConfiguration = none := by rw [view]; exact own
    rw [ends]
    have kept := @searchConfiguration_runStrategy opened query request handle expression missing
    rw [← text, view] at kept
    exact (congrArg View.searchConfiguration left).trans kept

theorem keeps_store_cleanUp : Keeps State.store cleanUp := by
  refine .bind (.update fun _ => rfl) fun _ => .get_bind fun state => ?_
  split
  · exact .pure _
  · split
    · exact .pure _
    · exact .bind ((keeps_closeSession _).map fun frame => frame.1.store) fun _ =>
        .update fun _ => rfl

end Action

/-- A turn of a run: the file of the settings is changed or removed, and more or less room is left
for reading it; a context of an application is entered, cleaned up or left, or a search or a listing
is made. -/
inductive Turn where
  | filed (file : Option (List UInt8)) (room : Place → Room)
  | entered (settings : List (String × Value))
  | cleaned
  | left
  | searched (given : Bool) (query : Option String) (request : PageRequest)
  | listed (given : Bool) (request : PageRequest)

namespace Turn

/-- Where a turn leads. -/
def run (state : State) : Turn → State
  | filed file room => { state with files := { state.files with settings := file, room } }
  | entered settings => ((Action.enter settings).runFrom state).2
  | cleaned => (Action.cleanUp.runFrom state).2
  | left => (Action.leave.runFrom state).2
  | searched given query request => ((Action.search given query request).runFrom state).2
  | listed given request => ((Action.list given request).runFrom state).2

/-- Whether a turn is a text search that gets a session, but no configuration of its application. -/
def NeedsFile (state : State) : Turn → Prop
  | searched given query _ =>
    (Strategy.ofQuery query).IsFullText ∧ state.view.ownConfiguration = none ∧
      Action.Opens given state
  | _ => False

instance (state : State) : DecidablePred (NeedsFile state)
  | searched _ _ _ => inferInstanceAs (Decidable (_ ∧ _ ∧ _))
  | filed _ _ => .isFalse not_false
  | entered _ => .isFalse not_false
  | cleaned => .isFalse not_false
  | left => .isFalse not_false
  | listed _ _ => .isFalse not_false

end Turn

/-- The text search configuration that the file of the settings names to a text search, if it can be
had. -/
def State.fileConfiguration (state : State) : Except Fault String :=
  state.view.fileConfiguration .search

/-- What a turn takes of the file: what that names, if the turn needs it and it can be had. -/
def Turn.taken? (state : State) (turn : Turn) : Option String :=
  if turn.NeedsFile state then state.fileConfiguration.toOption else none

/-- Where a run leads. -/
def runTurns (start : State) (turns : List Turn) : State := turns.foldl Turn.run start

/-- The configuration that the file names when one is first needed, and can be had, in a run. -/
def firstTaken (start : State) : List Turn → Option String
  | [] => none
  | turn :: rest => (turn.taken? start).or (firstTaken (turn.run start) rest)

/-- The configuration of a text search: its application's, else the one that is kept of the file,
else that of the file, if it can be had. -/
def State.inForce (state : State) (kept : Option String) : Except Fault String :=
  (state.view.ownConfiguration.or kept).elim state.fileConfiguration .ok

namespace Turn

/-- Nothing is read in turns that do not need the file. -/
theorem searchConfiguration_run_of_not_needsFile {turn : Turn} {state : State}
    (spared : ¬ turn.NeedsFile state) :
    (turn.run state).searchConfiguration = state.searchConfiguration := by
  cases turn with
  | filed file room => rfl
  | entered settings => rfl
  | cleaned => exact (Action.disregards_cleanUp state).searchConfiguration_eq
  | left => rfl
  | listed given request =>
      exact (Action.disregards_list given request state).searchConfiguration_eq
  | searched given query request =>
      by_cases chosen : (Strategy.ofQuery query).IsFullText
      · by_cases own : state.view.ownConfiguration.isSome
        · exact (Action.disregardsAt_search_of_own given request chosen own).searchConfiguration_eq
        · have closed : ¬ Action.Opens given state :=
            fun opens => spared ⟨chosen, Option.not_isSome_iff_eq_none.mp own, opens⟩
          exact congrArg View.searchConfiguration (Action.search_of_not_opens request closed)
      · exact (Action.disregards_search given request chosen state).searchConfiguration_eq

/-- A turn that needs the file reads it only if nothing is kept of it yet. -/
theorem searchConfiguration_run (turn : Turn) (state : State) :
    (turn.run state).searchConfiguration = state.searchConfiguration.or (turn.taken? state) := by
  rw [taken?]
  by_cases needs : turn.NeedsFile state
  · cases turn with
    | searched given query request =>
        obtain ⟨chosen, own, opens⟩ := needs
        rw [if_pos ⟨chosen, own, opens⟩]
        refine (Action.searchConfiguration_search request chosen own opens).trans ?_
        rw [View.storedConfiguration,
          show state.view.searchConfiguration = state.searchConfiguration from rfl]
        cases state.searchConfiguration <;> rfl
    | _ => exact absurd needs not_false
  · rw [if_neg needs, Option.or_none, searchConfiguration_run_of_not_needsFile needs]

end Turn

theorem store_runTurns (start : State) (turns : List Turn) :
    (runTurns start turns).store = start.store := by
  induction turns generalizing start with
  | nil => rfl
  | cons turn rest ih =>
      refine (ih (turn.run start)).trans ?_
      cases turn with
      | searched given query request =>
          obtain ⟨_, _, later, run, continues, _⟩ := Action.search_comes given query request start
          rw [Turn.run, run]
          exact continues.store
      | listed given request =>
          obtain ⟨_, _, later, run, continues, _⟩ := Action.list_comes given request start
          rw [Turn.run, run]
          exact continues.store
      | cleaned => exact Action.keeps_store_cleanUp start
      | _ => rfl

/-- What is kept of the file is what it named when it was first needed and could be had. -/
theorem searchConfiguration_runTurns (start : State) (turns : List Turn) :
    (runTurns start turns).searchConfiguration =
      start.searchConfiguration.or (firstTaken start turns) := by
  induction turns generalizing start with
  | nil => rw [firstTaken, Option.or_none]; rfl
  | cons turn rest ih =>
      have later := ih (turn.run start)
      rw [Turn.searchConfiguration_run, Option.or_assoc] at later
      exact later

/-- In a run that begins with nothing kept, every text search is executed with the configuration of
its application, if that has one, and else with what the file named when a text search without one
first had a session and got what it named, which is this one if there is none before.  That is what
is kept after any turns; a text search that gets no configuration executes nothing.  A search on
columns, a listing and a text search whose application has a configuration do the same whatever the
file holds and whatever is kept of it, and leave both as they are. -/
theorem text_search_configuration {start : State} (fresh : start.searchConfiguration = none)
    (turns : List Turn) :
    let state := runTurns start turns
    let inForce := state.inForce (firstTaken start turns)
    state.searchConfiguration = firstTaken start turns ∧
    (∀ given query request, (Strategy.ofQuery query).IsFullText →
      ∃ outcome executed later,
        (Action.search given query request).runFrom state = (outcome, later) ∧
        later.journal.statements = state.journal.statements ++ executed ∧
        (∀ statement ∈ executed, ∃ configuration, inForce = .ok configuration ∧
          statement.bindings.lookup "ts_config" = some (.text configuration)) ∧
        ∀ page, outcome = .ok page → executed.length = 2) ∧
    (∀ given request, (Action.list given request).DisregardsAt state) ∧
    ∀ given query request,
      ¬ (Strategy.ofQuery query).IsFullText ∨ state.view.ownConfiguration.isSome →
      (Action.search given query request).DisregardsAt state := by
  intro state inForce
  have kept : state.searchConfiguration = firstTaken start turns := by
    rw [searchConfiguration_runTurns, fresh, Option.none_or]
  refine ⟨kept, fun given query request chosen => ?_,
    fun given request => Action.disregards_list given request state,
    fun given query request apart => ?_⟩
  · obtain ⟨expression, text⟩ := chosen.exists_expression
    have same : state.view.configuration = inForce := by
      change _ = state.inForce (firstTaken start turns)
      rw [View.configuration_eq_elim, State.inForce, ← kept, View.storedConfiguration,
        show state.view.searchConfiguration = state.searchConfiguration from rfl]
      cases state.view.ownConfiguration <;> cases state.searchConfiguration <;> rfl
    rw [← same]
    exact Action.search_executes given request text state
  · by_cases chosen : (Strategy.ofQuery query).IsFullText
    · exact Action.disregardsAt_search_of_own given request chosen
        (apart.resolve_left (not_not.mpr chosen))
    · exact Action.disregards_search given request chosen state

/-- A file of settings that name a text search configuration, with an empty list beside it. -/
def fileNaming (name : String) : Option (List UInt8) :=
  some ("\x7b\"text_search_config\": \"" ++ name ++ "\", \"x\": []\x7d").toUTF8.toList

/-- A request for ten records of what is found. -/
def firstTen : PageRequest := ⟨1, 10, ⟨none, none⟩, none, true⟩

/-- A service before its first turn, with an empty store. -/
def unused : State :=
  .initial [] { Files.absent "config".toList with settings := fileNaming "simple" } fun _ _ =>
    .ok ⟨.int 0, [], 0⟩

/-- A run in which the file changes before it is needed, and is removed after that. -/
def changingRun : List Turn :=
  [.entered [("TEXT_SEARCH_CONFIG", .text "english")], .searched true (some "login") firstTen,
    .left, .listed false firstTen, .filed (fileNaming "german") fun _ => ⟨2, 1⟩,
    .searched true (some "login") firstTen, .filed none fun _ => ⟨0, 0⟩, .entered []]

/-- What the file has named is in force when the file is gone. -/
theorem text_search_configuration_removed :
    unused.searchConfiguration = none ∧ (runTurns unused changingRun).files.settings = none ∧
    ∃ page count rows later,
      (Action.search true (some "login") firstTen).runFrom (runTurns unused changingRun) =
        (.ok page, later) ∧
      later.journal.statements =
        (runTurns unused changingRun).journal.statements ++ [count, rows] ∧
      count.bindings.lookup "ts_config" = some (.text "german") ∧
      rows.bindings.lookup "ts_config" = some (.text "german") := by
  have chosen : Strategy.ofQuery (some "login") = .fullText "login:*".toList := by decide +kernel
  have named : (runTurns unused changingRun).inForce (firstTaken unused changingRun) =
      .ok "german" := ok_of_toOption (by decide +kernel)
  have inForce : (runTurns unused changingRun).view.configuration = .ok "german" :=
    ok_of_toOption (by decide +kernel)
  obtain ⟨_, searches, _⟩ := @text_search_configuration unused rfl changingRun
  obtain ⟨outcome, executed, later, run, statements, bound, both⟩ :=
    searches true (some "login") firstTen (by rw [chosen]; exact trivial)
  obtain ⟨page, _, succeeds⟩ : ∃ page later, (Action.search true (some "login") firstTen).runFrom
      (runTurns unused changingRun) = (.ok page, later) :=
    Action.search_ok chosen inForce ⟨_, rfl⟩ (store_runTurns unused changingRun)
  obtain ⟨rfl, rfl⟩ := Prod.mk.inj (run.symm.trans succeeds)
  obtain ⟨count, rows, rfl⟩ := List.length_eq_two.mp (both page rfl)
  have german : ∀ statement ∈ [count, rows],
      statement.bindings.lookup "ts_config" = some (.text "german") := by
    intro statement member
    obtain ⟨configuration, had, binds⟩ := bound statement member
    obtain rfl := Except.ok.inj (had.symm.trans named)
    exact binds
  exact ⟨rfl, rfl, page, count, rows, _, run, statements, german count (by simp),
    german rows (by simp)⟩

/-- A file that is nested too deeply for a text search names the usual configuration to it, where
one with more room reads another. -/
theorem text_search_configuration_nested :
    let state := runTurns unused [.filed (fileNaming "german") fun _ => ⟨1, 1⟩]
    Settings.searchConfiguration
      (({ state.view with room := fun _ => ⟨2, 1⟩ } : View).fileSettings .search) = "german" ∧
    ∃ page count rows later,
      (Action.search true (some "login") firstTen).runFrom state = (.ok page, later) ∧
      later.journal.statements = [count, rows] ∧
      count.bindings.lookup "ts_config" = some (.text "english") ∧
      rows.bindings.lookup "ts_config" = some (.text "english") := by
  have chosen : Strategy.ofQuery (some "login") = .fullText "login:*".toList := by decide +kernel
  refine ⟨by decide +kernel, ?_⟩
  exact Action.search_binds chosen (ok_of_toOption (by decide +kernel)) ⟨_, rfl⟩ rfl

end AuditTrail.Service
