import AuditTrail.Proofs.Query.Condition
import AuditTrail.Proofs.Service.Session
import AuditTrail.Proofs.Sql.Filter

/-!
# What a search asks the store

A search counts and then fetches, or asks nothing.  What it asks depends on the state only through
the text search configuration in force, and it leaves store and configuration as they are.
-/

namespace AuditTrail.Sql

/-- The window of a page whose number and size are in range. -/
theorem window_of_valid {page size : Int} (first : 1 ≤ page) (within : 1 ≤ size ∧ size ≤ 1000) :
    window page size = .ok ⟨size.toNat, ((page - 1) * size).toNat⟩ := by
  have inRange : ¬ (size < (Fault.minPageSize : Nat) ∨ (Fault.maxPageSize : Nat) < size) := by
    simp only [Fault.minPageSize, Fault.maxPageSize]
    omega
  rw [window, if_neg (Int.not_lt.mpr first), if_neg inRange]

end AuditTrail.Sql

namespace AuditTrail.Service

open Text Query Sql

/-- The settings that the file of the service holds, as they are read at a place; none when it
cannot be used. -/
def View.fileSettings (view : View) (place : Place) : Value :=
  match view.file with
  | none => .map []
  | some data =>
    match (Utf8.decode? data).map (Json.read (view.room place).read) with
    | some (.ok (.map entries)) => .map entries
    | _ => .map []

/-- Whether a text search configuration has to be reported that a place has no room to show. -/
def View.Overwhelms (view : View) (place : Place) (settings : Value) : Prop :=
  Settings.ignoresConfiguration settings = true ∧
    (view.room place).shown < (Settings.entry settings "text_search_config").height

instance (view : View) (place : Place) (settings : Value) :
    Decidable (view.Overwhelms place settings) :=
  inferInstanceAs (Decidable (_ ∧ _))

/-- The text search configuration of the file, as it is read at a place. -/
def View.fileConfiguration (view : View) (place : Place) : Except Fault String :=
  if view.Overwhelms place (view.fileSettings place) then .error .tooNested
  else .ok (Settings.searchConfiguration (view.fileSettings place))

/-- The text search configuration that is kept of the file, or else that of the file. -/
def View.storedConfiguration (view : View) : Except Fault String :=
  match view.searchConfiguration with
  | some configuration => .ok configuration
  | none => view.fileConfiguration .search

/-- A setting of the innermost request. -/
def View.setting (view : View) (name : String) : Value :=
  match view.settings with
  | settings :: _ => (settings.lookup name).getD .null
  | [] => .null

/-- The text search configuration in force. -/
def View.configuration (view : View) : Except Fault String :=
  match view.setting "TEXT_SEARCH_CONFIG" with
  | .text configuration =>
    if configuration.isEmpty then view.storedConfiguration else .ok configuration
  | _ => view.storedConfiguration

/-- The view in which the text search configuration of the file was kept, if it can be had. -/
def View.keeping (view : View) : View :=
  { view with searchConfiguration := view.storedConfiguration.toOption }

/-- Keeping the text search configuration of the file does not change it. -/
theorem View.storedConfiguration_keeping (view : View) :
    view.keeping.storedConfiguration = view.storedConfiguration := by
  change (match view.storedConfiguration.toOption with
    | some configuration => .ok configuration
    | none => view.fileConfiguration .search) = view.storedConfiguration
  cases had : view.storedConfiguration with
  | ok configuration => rfl
  | error fault =>
      rw [storedConfiguration] at had
      split at had
      · cases had
      · exact had

theorem View.configuration_keeping (view : View) :
    view.keeping.configuration = view.configuration := by
  rw [configuration, configuration, storedConfiguration_keeping]
  rfl

/-- Statements were executed between two views, and nothing else that a search sees has changed. -/
structure View.Continues (before after : View) (executed : List Statement) : Prop where
  statements : after.statements = before.statements ++ executed
  store : after.store = before.store
  configuration : after.configuration = before.configuration

theorem View.Continues.refl (view : View) : view.Continues view [] :=
  ⟨(List.append_nil _).symm, rfl, rfl⟩

theorem View.Continues.trans {first second third : View} {front back : List Statement}
    (begun : first.Continues second front) (gone : second.Continues third back) :
    first.Continues third (front ++ back) where
  statements := by rw [gone.statements, begun.statements, List.append_assoc]
  store := gone.store.trans begun.store
  configuration := gone.configuration.trans begun.configuration

namespace Action

theorem log_runFrom (level : Level) (source : Source) (message : List Char) (state : State) :
    (log level source message).runFrom state =
      (.ok (), state.logged (state.journal.entries ++ [⟨level, source, message, none⟩])) := rfl

theorem loadSettings_runFrom (place : Place) (state : State) :
    ∃ entries, (loadSettings place).runFrom state =
      (.ok (state.view.fileSettings place), state.logged entries) := by
  have path : settingsPath.runFrom state =
      (.ok (state.files.directory ++ "/appconfig.json".toList), state) := rfl
  rw [loadSettings, runFrom_bind_of_ok path, runFrom_bind_of_ok (runFrom_get state),
    runFrom_bind_of_ok (runFrom_get state)]
  rw [View.fileSettings, show state.view.file = state.files.settings from rfl,
    show state.view.room = state.files.room from rfl]
  cases state.files.settings with
  | none => exact ⟨_, rfl⟩
  | some data =>
      cases decoded : Utf8.decode? data with
      | none =>
          simp only [decoded, Option.map_none]
          exact ⟨_, rfl⟩
      | some text =>
          simp only [decoded, Option.map_some]
          cases read : Json.read (state.files.room place).read text with
          | error trouble => exact ⟨_, rfl⟩
          | ok value => cases value <;> exact ⟨_, rfl⟩

theorem reportIgnored_runFrom (place : Place) (value : Value) (state : State) :
    ∃ entries, (reportIgnored place value).runFrom state =
      (if (state.view.room place).shown < value.height then .error .tooNested else .ok (),
        state.logged entries) := by
  rw [reportIgnored, runFrom_bind_of_ok (runFrom_get state),
    show state.view.room = state.files.room from rfl]
  split
  · exact ⟨state.journal.entries, rfl⟩
  · exact ⟨_, rfl⟩

/-- A text search configuration that cannot be used is reported, where there is room to show it. -/
theorem searchConfiguration_of_settings (place : Place) {settings loaded : Value} {state : State}
    {entries : List LogEntry}
    (loads : (settingsOr place settings).runFrom state = (.ok loaded, state.logged entries)) :
    ∃ more, (searchConfiguration place settings).runFrom state =
      (if state.view.Overwhelms place loaded then .error .tooNested
        else .ok (Settings.searchConfiguration loaded), state.logged more) := by
  rw [searchConfiguration, runFrom_bind_of_ok loads]
  by_cases ignored : Settings.ignoresConfiguration loaded = true
  · rw [if_pos ignored]
    obtain ⟨more, reports⟩ := reportIgnored_runFrom place
      (Settings.entry loaded "text_search_config") (state.logged entries)
    refine ⟨more, ?_⟩
    rw [State.view_logged] at reports
    rw [runFrom_bind, reports]
    by_cases beyond : (state.view.room place).shown <
        (Settings.entry loaded "text_search_config").height
    · rw [if_pos beyond, if_pos (show state.view.Overwhelms place loaded from ⟨ignored, beyond⟩)]
      rfl
    · rw [if_neg beyond,
        if_neg fun overwhelms : state.view.Overwhelms place loaded => beyond overwhelms.2]
      rfl
  · rw [if_neg ignored, if_neg fun overwhelms : state.view.Overwhelms place loaded =>
      ignored overwhelms.1]
    exact ⟨entries, rfl⟩

theorem searchConfiguration_runFrom (place : Place) (state : State) :
    ∃ entries, (searchConfiguration place .null).runFrom state =
      (state.view.fileConfiguration place, state.logged entries) := by
  obtain ⟨entries, loaded⟩ := loadSettings_runFrom place state
  exact searchConfiguration_of_settings place loaded

theorem storedSearchConfiguration_runFrom (state : State) :
    ∃ entries, storedSearchConfiguration.runFrom state =
      (state.view.storedConfiguration, { state.logged entries with
        searchConfiguration := state.view.storedConfiguration.toOption }) := by
  rw [storedSearchConfiguration, runFrom_bind_of_ok (runFrom_get state), View.storedConfiguration,
    show state.view.searchConfiguration = state.searchConfiguration from rfl]
  cases stored : state.searchConfiguration with
  | some configuration =>
      refine ⟨state.journal.entries, ?_⟩
      change (Except.ok configuration, state) = (Except.ok configuration, _)
      obtain ⟨⟩ := state
      cases stored
      rfl
  | none =>
      obtain ⟨entries, read⟩ := searchConfiguration_runFrom .search state
      refine ⟨entries, ?_⟩
      simp only []
      cases had : state.view.fileConfiguration .search with
      | error fault =>
          rw [had] at read
          rw [runFrom_bind_of_error read]
          obtain ⟨⟩ := state
          cases stored
          rfl
      | ok configuration =>
          rw [had] at read
          rw [runFrom_bind_of_ok read]
          rfl

/-- The text search configuration in force is found without asking the store. -/
theorem activeSearchConfiguration_runFrom (state : State) :
    ∃ later, activeSearchConfiguration.runFrom state = (state.view.configuration, later) ∧
      state.view.Continues later.view [] ∧ leases later = leases state := by
  have setting : (applicationSetting "TEXT_SEARCH_CONFIG").runFrom state =
      (.ok (state.view.setting "TEXT_SEARCH_CONFIG"), state) := by
    rw [applicationSetting, runFrom_bind_of_ok (runFrom_get state), View.setting,
      show state.view.settings = state.contexts.map Context.settings from rfl]
    cases state.contexts <;> rfl
  obtain ⟨entries, stored⟩ := storedSearchConfiguration_runFrom state
  have kept : state.view.Continues ({ state.logged entries with
      searchConfiguration := state.view.storedConfiguration.toOption } : State).view [] :=
    ⟨(List.append_nil _).symm, rfl, state.view.configuration_keeping⟩
  rw [activeSearchConfiguration, runFrom_bind_of_ok setting, View.configuration]
  cases state.view.setting "TEXT_SEARCH_CONFIG" with
  | text configuration =>
      by_cases empty : configuration.isEmpty
      · simp only [empty, if_true]
        exact ⟨_, stored, kept, rfl⟩
      · simp only [empty]
        exact ⟨state, rfl, .refl state.view, rfl⟩
  | _ => exact ⟨_, stored, kept, rfl⟩

/-- A statement is noted, whatever the store answers to it. -/
theorem execute_runFrom (handle : Handle) (statement : Statement) (state : State) :
    ∃ later, (execute handle statement).runFrom state =
        (state.view.store state.view.statements.length statement, later) ∧
      state.view.Continues later.view [statement] ∧ leases later = leases state := by
  cases handle with
  | given =>
      refine ⟨_, (runFrom_bind_of_ok (runFrom_get state)).trans
        ((runFrom_bind_of_ok rfl).trans (runFrom_ofExcept _ _)), ⟨rfl, rfl, rfl⟩, rfl⟩
  | numbered session =>
      refine ⟨_, (runFrom_bind_of_ok rfl).trans ((runFrom_bind_of_ok rfl).trans
        ((runFrom_bind_of_ok (runFrom_get _)).trans
          ((runFrom_bind_of_ok rfl).trans (runFrom_ofExcept _ _)))), ⟨rfl, rfl, rfl⟩, rfl⟩

end Action

/-- What a search asks for, beside the window. -/
structure Plan where
  /-- What is selected from the rows of a page. -/
  select : List Char
  /-- The clauses of both statements. -/
  clauses : List (List Char)
  /-- The bindings of the clauses. -/
  bindings : Bindings
  /-- The sort key of a page. -/
  key : SortKey

namespace Plan

/-- The statement that counts. -/
def count (plan : Plan) : Statement := countStatement plan.clauses plan.bindings

/-- The statement that gives a page. -/
def page (plan : Plan) (window : Window) : Statement :=
  pageStatement plan.select plan.clauses plan.key window plan.bindings

end Plan

/-- The page that two answers of the store make up. -/
def pageOf (counted fetched : Answer) : Except Fault Page := do
  let hits ← Row.records fetched.room fetched.rows
  let total ← Action.countOf counted.scalar
  pure ⟨hits, total⟩

/-- What counting and fetching comes to: the outcome and the statements. -/
inductive Fetches (store : Store) (number : Nat) (plan : Plan) (window : Window) :
    Except Fault Page → List Statement → Prop where
  | uncounted (fault : Fault) (refused : store number plan.count = .error fault) :
      Fetches store number plan window (.error fault) [plan.count]
  | unfetched (counted : Answer) (fault : Fault) (counts : store number plan.count = .ok counted)
      (refused : store (number + 1) (plan.page window) = .error fault) :
      Fetches store number plan window (.error fault) [plan.count, plan.page window]
  | fetched (counted answer : Answer) (counts : store number plan.count = .ok counted)
      (answers : store (number + 1) (plan.page window) = .ok answer) :
      Fetches store number plan window (pageOf counted answer) [plan.count, plan.page window]

namespace Action

theorem pageOf_runFrom (counted fetched : Answer) (state : State) :
    (do
      let hits ← ofExcept (Row.records fetched.room fetched.rows)
      let total ← ofExcept (countOf counted.scalar)
      pure ⟨hits, total⟩ : Action Page).runFrom state = (pageOf counted fetched, state) := by
  rw [runFrom_bind, runFrom_ofExcept, pageOf]
  cases Row.records fetched.room fetched.rows with
  | error fault => rfl
  | ok hits =>
      dsimp only
      rw [runFrom_bind, runFrom_ofExcept]
      cases countOf counted.scalar <;> rfl

theorem countAndFetch_runFrom (handle : Handle) (plan : Plan) (window : Window) (state : State) :
    ∃ outcome executed later, (countAndFetch handle plan.select plan.clauses plan.bindings plan.key
        window).runFrom state = (outcome, later) ∧
      state.view.Continues later.view executed ∧ leases later = leases state ∧
      Fetches state.view.store state.view.statements.length plan window outcome executed := by
  obtain ⟨middle, counts, counted, leased⟩ := execute_runFrom handle plan.count state
  obtain ⟨later, fetches, fetched, leasedLater⟩ :=
    execute_runFrom handle (plan.page window) middle
  have both := counted.trans fetched
  rw [counted.store, counted.statements, List.length_append, List.length_singleton] at fetches
  cases first : state.view.store state.view.statements.length plan.count with
  | error fault =>
      rw [first] at counts
      exact ⟨_, _, _, runFrom_bind_of_error counts, counted, leased, .uncounted fault first⟩
  | ok count =>
      rw [first] at counts
      cases second : state.view.store (state.view.statements.length + 1) (plan.page window) with
      | error fault =>
          rw [second] at fetches
          exact ⟨_, _, _, (runFrom_bind_of_ok counts).trans (runFrom_bind_of_error fetches), both,
            leasedLater.trans leased, .unfetched count fault first second⟩
      | ok answer =>
          rw [second] at fetches
          exact ⟨_, _, _, (runFrom_bind_of_ok counts).trans ((runFrom_bind_of_ok fetches).trans
            (pageOf_runFrom count answer later)), both, leasedLater.trans leased,
            .fetched count answer first second⟩

end Action

/-- What a search asks for under a configuration, if that can be had; nothing where nothing can
match. -/
def Strategy.plan (configuration : Except Fault String) (request : PageRequest) :
    Strategy → Except Fault (Option Plan)
  | .listing => .ok (some {
      select := selectColumns
      clauses := request.range.clause?.toList
      bindings := request.range.bindings
      key := .column .timestamp true })
  | .columns conditions => (filterOf conditions).map fun (filter, bindings) => some {
      select := selectColumns
      clauses := (filter.map Filter.text).toList ++ request.range.clause?.toList
      bindings := bindings ++ request.range.bindings
      key := sortKey request.sort request.descending false }
  | .fullText expression => configuration.map fun configuration => some {
      select := selectRanked
      clauses := matchClause :: request.range.clause?.toList
      bindings := ("query", .text (String.ofList expression)) ::
        ("ts_config", .text configuration) :: request.range.bindings
      key := sortKey request.sort request.descending true }
  | .nothing => .ok none

/-- The sort key that a search resolves its request to. -/
def Strategy.sortKey (request : PageRequest) : Strategy → SortKey
  | .columns _ => Sql.sortKey request.sort request.descending false
  | .fullText _ => Sql.sortKey request.sort request.descending true
  | _ => .column .timestamp true

/-- A filter on columns has a condition, and all its conditions are proper. -/
theorem Strategy.columns_of_ofQuery {query : Option String} {conditions : List Condition}
    (chosen : Strategy.ofQuery query = .columns conditions) :
    conditions ≠ [] ∧ ∀ condition ∈ conditions, condition.IsProper := by
  rw [ofQuery] at chosen
  split at chosen
  · cases chosen
  · rw [ofCompiled] at chosen
    split at chosen
    · next filled =>
        obtain rfl := Strategy.columns.inj chosen
        rw [Bool.and_eq_true] at filled
        refine ⟨fun none => ?_, fun condition member => isProper_of_mem_compile member⟩
        rw [none] at filled
        exact absurd filled.2 (by decide)
    · split at chosen <;> cases chosen

/-- What a filter on columns asks for. -/
theorem Strategy.filterOf_of_plan {configuration : Except Fault String} {request : PageRequest}
    {conditions : List Condition} {plan : Plan}
    (planned : (Strategy.columns conditions).plan configuration request = .ok (some plan)) :
    ∃ filter bindings, filterOf conditions = .ok (filter, bindings) ∧ plan = {
      select := selectColumns
      clauses := (filter.map Filter.text).toList ++ request.range.clause?.toList
      bindings := bindings ++ request.range.bindings
      key := Sql.sortKey request.sort request.descending false } := by
  rw [Strategy.plan] at planned
  cases built : filterOf conditions with
  | error fault =>
      rw [built] at planned
      cases planned
  | ok filtered =>
      rw [built] at planned
      exact ⟨filtered.1, filtered.2, rfl, (Option.some.inj (Except.ok.inj planned)).symm⟩

/-- A filter on columns that has a condition asks for what meets it. -/
theorem Strategy.columns_of_plan {configuration : Except Fault String} {request : PageRequest}
    {first : Condition} {rest : List Condition} {plan : Plan}
    (planned : (Strategy.columns (first :: rest)).plan configuration request =
      .ok (some plan)) :
    ∃ filter bindings, filterOf (first :: rest) = .ok (some filter, bindings) ∧ plan = {
      select := selectColumns
      clauses := filter.text :: request.range.clause?.toList
      bindings := bindings ++ request.range.bindings
      key := Sql.sortKey request.sort request.descending false } := by
  obtain ⟨filter, bindings, built, rfl⟩ := filterOf_of_plan planned
  obtain ⟨made, own, later, more, _, _, rfl, rfl⟩ := filterOf_cons built
  exact ⟨_, _, built, rfl⟩

/-- A search that names a column has a condition. -/
theorem Strategy.ofQuery_ne (query : Option String) : Strategy.ofQuery query ≠ .columns [] :=
  fun chosen => (columns_of_ofQuery chosen).1 rfl

/-- Whether a strategy is a text search. -/
def Strategy.IsFullText : Strategy → Prop
  | .fullText _ => True
  | _ => False

instance : DecidablePred Strategy.IsFullText
  | .fullText _ => .isTrue trivial
  | .listing => .isFalse not_false
  | .columns _ => .isFalse not_false
  | .nothing => .isFalse not_false

theorem Strategy.IsFullText.exists_expression {strategy : Strategy}
    (chosen : strategy.IsFullText) : ∃ expression, strategy = .fullText expression := by
  cases strategy with
  | fullText expression => exact ⟨expression, rfl⟩
  | _ => exact absurd chosen not_false

/-- What a text search asks for, under a configuration that can be had. -/
theorem Strategy.fullText_of_plan {configuration : Except Fault String} {request : PageRequest}
    {expression : List Char} {planned : Option Plan}
    (made : (Strategy.fullText expression).plan configuration request = .ok planned) :
    ∃ name, configuration = .ok name ∧ planned = some {
      select := selectRanked
      clauses := matchClause :: request.range.clause?.toList
      bindings := ("query", .text (String.ofList expression)) ::
        ("ts_config", .text name) :: request.range.bindings
      key := Sql.sortKey request.sort request.descending true } := by
  cases configuration with
  | error fault => cases made
  | ok name => exact ⟨name, rfl, (Except.ok.inj made).symm⟩

/-- Whether a strategy is a text search without a configuration: the one of the file can neither be
used nor reported. -/
def Strategy.LacksConfiguration (strategy : Strategy) (view : View) : Prop :=
  strategy.IsFullText ∧ view.configuration = .error .tooNested

/-- A text search configuration cannot be had only for being nested too deeply. -/
theorem View.eq_tooNested_of_configuration {view : View} {fault : Fault}
    (failed : view.configuration = .error fault) : fault = .tooNested := by
  have ofFile : view.fileConfiguration .search = .error fault → fault = .tooNested := by
    intro failed
    rw [fileConfiguration] at failed
    split at failed <;> cases failed
    rfl
  have ofStored : view.storedConfiguration = .error fault → fault = .tooNested := by
    intro failed
    rw [storedConfiguration] at failed
    split at failed
    · cases failed
    · exact ofFile failed
  rw [configuration] at failed
  split at failed
  · split at failed
    · exact ofStored failed
    · cases failed
  · exact ofStored failed

/-- A search has a filter, unless it lacks a text search configuration. -/
theorem Strategy.lacksConfiguration_of_plan {query : Option String} {view : View}
    {request : PageRequest} {fault : Fault}
    (failed : (Strategy.ofQuery query).plan view.configuration request = .error fault) :
    fault = .tooNested ∧ (Strategy.ofQuery query).LacksConfiguration view := by
  cases chosen : Strategy.ofQuery query with
  | listing => rw [chosen] at failed; cases failed
  | nothing => rw [chosen] at failed; cases failed
  | fullText expression =>
      cases inForce : view.configuration with
      | error other =>
          obtain rfl := View.eq_tooNested_of_configuration inForce
          rw [chosen, inForce] at failed
          exact ⟨(Except.error.inj failed).symm, trivial, inForce⟩
      | ok name =>
          rw [chosen, inForce] at failed
          cases failed
  | columns conditions =>
      obtain ⟨filled, proper⟩ := columns_of_ofQuery chosen
      cases conditions with
      | nil => exact absurd rfl filled
      | cons first rest =>
          obtain ⟨filter, own, built⟩ := filterOf_ok
            (fun other member => (proper other member).named)
            fun other member => (proper other (List.mem_cons_of_mem first member)).joined
          rw [chosen, plan, built] at failed
          cases failed

/-- Only where nothing can match, nothing is asked. -/
theorem Strategy.nothing_of_plan {configuration : Except Fault String} {request : PageRequest}
    {strategy : Strategy} (planned : strategy.plan configuration request = .ok none) :
    strategy = .nothing := by
  cases strategy with
  | listing => cases planned
  | fullText expression =>
      obtain ⟨_, _, asked⟩ := fullText_of_plan planned
      cases asked
  | nothing => rfl
  | columns conditions =>
      rw [plan] at planned
      cases built : filterOf conditions <;> rw [built] at planned <;> cases planned

/-- What a search comes to once it has a session: the outcome and the statements. -/
inductive Comes (store : Store) (number : Nat) (configuration : Except Fault String)
    (request : PageRequest) (strategy : Strategy) :
    Except Fault Page → List Statement → Prop where
  | unfiltered (fault : Fault) (refused : strategy.plan configuration request = .error fault) :
      Comes store number configuration request strategy (.error fault) []
  | empty (planned : strategy.plan configuration request = .ok none) :
      Comes store number configuration request strategy (.ok ⟨[], 0⟩) []
  | outside (plan : Plan) (fault : Fault)
      (planned : strategy.plan configuration request = .ok (some plan))
      (refused : window request.page request.size = .error fault) :
      Comes store number configuration request strategy (.error fault) []
  | ran (plan : Plan) (within : Window) (outcome : Except Fault Page) (executed : List Statement)
      (planned : strategy.plan configuration request = .ok (some plan))
      (valid : window request.page request.size = .ok within)
      (fetches : Fetches store number plan within outcome executed) :
      Comes store number configuration request strategy outcome executed

/-- Every statement that a strategy comes to counts or fetches what its plan asks for. -/
theorem Comes.mem {store : Store} {number : Nat} {configuration : Except Fault String}
    {request : PageRequest} {strategy : Strategy} {outcome : Except Fault Page}
    {executed : List Statement}
    (comes : Comes store number configuration request strategy outcome executed)
    {statement : Statement} (asked : statement ∈ executed) :
    ∃ plan window, strategy.plan configuration request = .ok (some plan) ∧
      (statement = plan.count ∨ statement = plan.page window) := by
  cases comes with
  | unfiltered => cases asked
  | empty => cases asked
  | outside => cases asked
  | ran plan within _ _ planned valid fetches =>
      refine ⟨plan, within, planned, ?_⟩
      cases fetches with
      | uncounted => exact .inl (List.mem_singleton.mp asked)
      | unfetched => simpa using asked
      | fetched => simpa using asked

namespace Action

/-- The window is looked at before anything is asked. -/
theorem windowed_runFrom {configuration : Except Fault String} {request : PageRequest}
    {strategy : Strategy} {plan : Plan}
    (planned : strategy.plan configuration request = .ok (some plan))
    (handle : Handle) (state : State) :
    ∃ outcome executed later, (do
        let window ← ofExcept (window request.page request.size)
        countAndFetch handle plan.select plan.clauses plan.bindings plan.key window :
          Action Page).runFrom state = (outcome, later) ∧
      state.view.Continues later.view executed ∧ leases later = leases state ∧
      Comes state.view.store state.view.statements.length configuration request strategy outcome
        executed := by
  rw [runFrom_bind, runFrom_ofExcept]
  cases valid : window request.page request.size with
  | error fault =>
      exact ⟨_, [], state, rfl, .refl state.view, rfl, .outside plan fault planned valid⟩
  | ok within =>
      obtain ⟨outcome, executed, later, run, continues, leased, fetches⟩ :=
        countAndFetch_runFrom handle plan within state
      exact ⟨outcome, executed, later, run, continues, leased,
        .ran plan within outcome executed planned valid fetches⟩

/-- Running a strategy in a session. -/
theorem runStrategy_runFrom (query : Option String) (request : PageRequest) (handle : Handle)
    (strategy : Strategy) (state : State) :
    ∃ outcome executed later,
      (runStrategy query request handle strategy).runFrom state = (outcome, later) ∧
      state.view.Continues later.view executed ∧ leases later = leases state ∧
      Comes state.view.store state.view.statements.length state.view.configuration request strategy
        outcome executed := by
  cases strategy with
  | listing =>
      have planned : Strategy.listing.plan state.view.configuration request = .ok (some {
        select := selectColumns
        clauses := request.range.clause?.toList
        bindings := request.range.bindings
        key := .column .timestamp true }) := rfl
      exact windowed_runFrom planned handle state
  | columns conditions =>
      rw [runStrategy, runFrom_bind_of_ok (log_runFrom _ _ _ state), searchColumns]
      generalize state.journal.entries ++ _ = entries
      cases built : filterOf conditions with
      | error fault =>
          refine ⟨.error fault, [], state.logged entries, ?_, .refl state.view, rfl,
            .unfiltered fault ?_⟩
          · exact runFrom_bind_of_error (runFrom_ofExcept _ _)
          · rw [Strategy.plan, built]
            rfl
      | ok filtered =>
          obtain ⟨filter, bindings⟩ := filtered
          rw [runFrom_bind_of_ok (runFrom_ofExcept _ _)]
          have planned : (Strategy.columns conditions).plan state.view.configuration request =
              .ok (some {
                select := selectColumns
                clauses := (filter.map Filter.text).toList ++ request.range.clause?.toList
                bindings := bindings ++ request.range.bindings
                key := sortKey request.sort request.descending false }) := by
            rw [Strategy.plan, built]
            rfl
          exact windowed_runFrom planned handle (state.logged entries)
  | fullText expression =>
      rw [runStrategy, runFrom_bind_of_ok (log_runFrom _ _ _ state), searchText]
      generalize state.journal.entries ++ _ = entries
      obtain ⟨middle, active, kept, leased⟩ :=
        activeSearchConfiguration_runFrom (state.logged entries)
      rw [State.view_logged] at active
      cases inForce : state.view.configuration with
      | error fault =>
          rw [inForce] at active
          rw [runFrom_bind_of_error active]
          exact ⟨.error fault, [], middle, rfl, kept, leased, .unfiltered fault rfl⟩
      | ok name =>
          rw [inForce] at active
          rw [runFrom_bind_of_ok active]
          have planned : (Strategy.fullText expression).plan (.ok name) request =
              .ok (some {
                select := selectRanked
                clauses := matchClause :: request.range.clause?.toList
                bindings := ("query", .text (String.ofList expression)) ::
                  ("ts_config", .text name) :: request.range.bindings
                key := sortKey request.sort request.descending true }) := rfl
          obtain ⟨outcome, executed, later, run, continues, leasedLater, comes⟩ :=
            windowed_runFrom planned handle middle
          rw [kept.store, kept.statements, List.append_nil] at comes
          exact ⟨outcome, executed, later, run, kept.trans continues, leasedLater.trans leased,
            comes⟩
  | nothing =>
      rw [runStrategy, runFrom_bind_of_ok (log_runFrom _ _ _ state)]
      exact ⟨_, [], _, rfl, .refl state.view, rfl, .empty rfl⟩

theorem logIgnored_runFrom (query : Option String) (state : State) :
    ∃ entries, (logIgnored query).runFrom state = (.ok (), state.logged entries) := by
  rw [logIgnored]
  generalize ignoredColumns (query.getD "").toList = ignored
  induction ignored generalizing state with
  | nil => exact ⟨state.journal.entries, rfl⟩
  | cons name rest ih =>
      obtain ⟨more, others⟩ := ih (state.logged (state.journal.entries ++
        [⟨.debug, .compiler, "Ignoring term for unknown column ".toList ++ quoted name, none⟩]))
      exact ⟨more, (runFrom_bind_of_ok (log_runFrom _ _ _ state)).trans others⟩

/-- A search is logged, and then its strategy runs in a session. -/
theorem search_runFrom (given : Bool) (query : Option String) (request : PageRequest)
    (state : State) :
    ∃ entries, (search given query request).runFrom state =
      (inSession given fun handle =>
        runStrategy query request handle (Strategy.ofQuery query)).runFrom
          (state.logged entries) := by
  rw [search]
  split
  · next listing =>
      rw [listing, runFrom_bind_of_ok (log_runFrom _ _ _ state)]
      exact ⟨_, rfl⟩
  · next strategy _ =>
      obtain ⟨entries, logs⟩ := logIgnored_runFrom query state
      exact ⟨entries, runFrom_bind_of_ok logs⟩

theorem keeps_leases_runStrategy (query : Option String) (request : PageRequest)
    (strategy : Strategy) (handle : Handle) :
    Keeps leases (runStrategy query request handle strategy) := by
  intro state
  obtain ⟨_, _, later, run, _, leased, _⟩ :=
    runStrategy_runFrom query request handle strategy state
  rw [run]
  exact leased

/-- A strategy gets no session and asks nothing, or it comes to what it comes to in one, and a
session is at hand for the next one. -/
theorem inSession_comes (given : Bool) (query : Option String) (request : PageRequest)
    (strategy : Strategy) (state : State) :
    ∃ outcome executed later,
      (inSession given fun handle => runStrategy query request handle strategy).runFrom state =
        (outcome, later) ∧
      state.view.Continues later.view executed ∧
      ((¬ Opens given state ∧ executed = [] ∧ ∃ fault, outcome = .error fault) ∨
        (Ready given later ∧ Comes state.view.store state.view.statements.length
          state.view.configuration request strategy outcome executed)) := by
  rcases inSession_cases given _ state (keeps_leases_runStrategy query request strategy) with
    ⟨fault, later, fails, view, closed⟩ | ⟨handle, opened, later, view, ends, left, ready⟩
  · refine ⟨.error fault, [], later, fails, ?_, .inl ⟨closed, rfl, fault, rfl⟩⟩
    rw [view]
    exact .refl state.view
  · obtain ⟨outcome, executed, middle, runs, continues, _, comes⟩ :=
      runStrategy_runFrom query request handle strategy opened
    rw [runs] at ends left
    rw [view] at continues comes
    refine ⟨outcome, executed, later, ends, ?_, .inr ⟨ready, comes⟩⟩
    rw [left]
    exact continues

/-- A search gets no session and asks nothing, or it comes to what its strategy comes to, and a
session is at hand for the next one. -/
theorem search_comes (given : Bool) (query : Option String) (request : PageRequest)
    (state : State) :
    ∃ outcome executed later, (search given query request).runFrom state = (outcome, later) ∧
      state.view.Continues later.view executed ∧
      ((¬ CanOpen given state ∧ executed = [] ∧ ∃ fault, outcome = .error fault) ∨
        (Ready given later ∧ Comes state.view.store state.view.statements.length
          state.view.configuration request (Strategy.ofQuery query) outcome executed)) := by
  obtain ⟨entries, run⟩ := search_runFrom given query request state
  obtain ⟨outcome, executed, later, runs, continues, ends⟩ :=
    inSession_comes given query request (Strategy.ofQuery query) (state.logged entries)
  refine ⟨outcome, executed, later, run.trans runs, continues, ?_⟩
  exact ends.imp_left fun ⟨closed, nothing, failed⟩ =>
    ⟨fun opens => closed (opens entries), nothing, failed⟩

/-- A listing comes to what the listing strategy comes to. -/
theorem list_comes (given : Bool) (request : PageRequest) (state : State) :
    ∃ outcome executed later, (list given request).runFrom state = (outcome, later) ∧
      state.view.Continues later.view executed ∧
      ((¬ Opens given state ∧ executed = [] ∧ ∃ fault, outcome = .error fault) ∨
        (Ready given later ∧ Comes state.view.store state.view.statements.length
          state.view.configuration request .listing outcome executed)) :=
  inSession_comes given none request .listing state

end Action

end AuditTrail.Service
