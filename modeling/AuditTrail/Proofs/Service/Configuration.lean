import AuditTrail.Proofs.Json.Depth
import AuditTrail.Proofs.Service.Calls
import AuditTrail.Proofs.Service.Settings
import AuditTrail.Proofs.Sql.Parameter
import AuditTrail.Service.Schema

/-!
# The text search configuration in force

A search takes its configuration from the application of the running request, else from what was
kept of the file, else from the file itself.  Where these agree they go on to agree, and every text
search is executed with the one configuration.  The file says the same at every place that has room
for what is nested in it.
-/

namespace AuditTrail.Sql

/-- Whether no other text search configuration is bound. -/
def AreUnder (configuration : String) (bindings : Bindings) : Prop :=
  ∀ value, ("ts_config", value) ∈ bindings → value = .text configuration

variable {configuration : String} {front back : Bindings}

theorem areUnder_of_not_mem (free : "ts_config" ∉ names front) : AreUnder configuration front :=
  fun _ bound => absurd (List.mem_map_of_mem bound) free

theorem AreUnder.append (underFront : AreUnder configuration front)
    (underBack : AreUnder configuration back) : AreUnder configuration (front ++ back) := by
  intro value bound
  rcases List.mem_append.mp bound with first | last
  · exact underFront value first
  · exact underBack value last

theorem areUnder_range (range : DateRange) : AreUnder configuration range.bindings :=
  areUnder_of_not_mem fun bound => absurd ((names_range_sublist range).subset bound) (by decide)

theorem areUnder_filterOf {conditions : List Query.Condition} {filter : Option Filter}
    {own : Bindings} (built : filterOf conditions = .ok (filter, own)) :
    AreUnder configuration own := by
  refine areUnder_of_not_mem fun bound => ?_
  obtain ⟨index, named⟩ := (filterOf_names built).2 _ bound
  exact named.not_mem_reservedNames (by decide)

theorem areUnder_search (expression : String) :
    AreUnder configuration [("query", .text expression), ("ts_config", .text configuration)] := by
  intro value bound
  simpa using bound

end AuditTrail.Sql

namespace AuditTrail.Service

open Text Sql

/-- The places where a text search configuration is read of the file. -/
def Place.searching : List Place := [.startup, .search, .table]

/-- Whether the places where a text search configuration is read have room for the file, and for
reporting a configuration that cannot be used. -/
structure View.Fits (view : View) : Prop where
  read : ∀ data text, view.file = some data → Utf8.decode? data = some text →
    ∀ place ∈ Place.searching, Json.read (view.room place).read text ≠ .error .tooDeep
  shown : ∀ place ∈ Place.searching, ¬ view.Overwhelms place (view.fileSettings place)

/-- Nothing else in a view matters for that. -/
theorem View.Fits.congr {view other : View} (fits : view.Fits) (file : other.file = view.file)
    (room : other.room = view.room) : other.Fits := by
  obtain ⟨statements, store, settings, contents, regions, space, kept⟩ := other
  obtain rfl : contents = view.file := file
  obtain rfl : space = view.room := room
  exact ⟨fits.read, fits.shown⟩

/-- Two views of one file see the same settings at places that have room for it. -/
theorem View.Fits.fileSettings_eq {view other : View} (fits : view.Fits) (also : other.Fits)
    (same : other.file = view.file) {place elsewhere : Place} (here : place ∈ Place.searching)
    (there : elsewhere ∈ Place.searching) :
    other.fileSettings elsewhere = view.fileSettings place := by
  rw [fileSettings, fileSettings, same]
  cases file : view.file with
  | none => rfl
  | some data =>
      dsimp only
      cases decoded : Utf8.decode? data with
      | none => rfl
      | some text =>
          rw [Option.map_some, Option.map_some, Json.read_eq_of_enough
            (also.read data text (same.trans file) decoded elsewhere there)
            (fits.read data text file decoded place here)]

/-- Whether all that a search may take its configuration from holds this one, and nothing was
executed with another. -/
structure View.IsUnder (configuration : String) (view : View) : Prop where
  fits : view.Fits
  file : Settings.searchConfiguration (view.fileSettings .search) = configuration
  stored : ∀ other ∈ view.searchConfiguration, other = configuration
  running : ∀ settings ∈ view.settings,
    settings.lookup "TEXT_SEARCH_CONFIG" = some (.text configuration)
  executed : ∀ statement ∈ view.statements, AreUnder configuration statement.bindings

/-- Whether the view of a state is under a configuration. -/
def State.IsUnder (configuration : String) (state : State) : Prop :=
  state.view.IsUnder configuration

variable {configuration : String}

namespace View.IsUnder

variable {view : View} (under : view.IsUnder configuration)

include under

theorem isIdentifier : Text.isIdentifier configuration.toList = true := by
  rw [← under.file]
  exact Settings.isIdentifier_searchConfiguration _

theorem searchConfiguration_eq {place : Place} (searches : place ∈ Place.searching) :
    Settings.searchConfiguration (view.fileSettings place) = configuration := by
  rw [under.fits.fileSettings_eq under.fits rfl (by decide : Place.search ∈ _) searches]
  exact under.file

theorem fileConfiguration_eq {place : Place} (searches : place ∈ Place.searching) :
    view.fileConfiguration place = .ok configuration := by
  rw [fileConfiguration, if_neg (under.fits.shown place searches),
    under.searchConfiguration_eq searches]

theorem storedConfiguration_eq : view.storedConfiguration = .ok configuration := by
  rw [storedConfiguration]
  cases stored : view.searchConfiguration with
  | none => exact under.fileConfiguration_eq (by decide)
  | some other => exact congrArg Except.ok (under.stored other stored)

/-- The configuration in force is the one that all agree on. -/
theorem configuration_eq : view.configuration = .ok configuration := by
  have named : configuration.isEmpty = false := by
    have identifies := under.isIdentifier
    cases empty : configuration.isEmpty with
    | false => rfl
    | true =>
        rw [String.isEmpty_iff] at empty
        subst empty
        exact absurd identifies (by decide)
  rw [View.configuration, View.setting]
  cases running : view.settings with
  | nil => exact under.storedConfiguration_eq
  | cons settings outer =>
      have own := under.running settings (by simp [running])
      simp [own, named]

end View.IsUnder

namespace Action

variable {α : Type}

/-- A text search executes statements with the configuration in force, if that can be had, and two
of them when it succeeds. -/
theorem search_executes (given : Bool) {query : Option String} (request : PageRequest)
    {expression : List Char} (chosen : Strategy.ofQuery query = .fullText expression)
    (state : State) :
    ∃ outcome executed later, (search given query request).runFrom state = (outcome, later) ∧
      later.journal.statements = state.journal.statements ++ executed ∧
      (∀ statement ∈ executed, ∃ configuration, state.view.configuration = .ok configuration ∧
        statement.bindings.lookup "ts_config" = some (.text configuration)) ∧
      ∀ page, outcome = .ok page → executed.length = 2 := by
  obtain ⟨outcome, executed, later, run, continues, ends⟩ :=
    search_comes given query request state
  rw [chosen] at ends
  refine ⟨outcome, executed, later, run, continues.statements, fun statement member => ?_, ?_⟩
  · rcases ends with ⟨_, rfl, _⟩ | ⟨_, comes⟩
    · cases member
    · obtain ⟨plan, window, planned, asked⟩ := comes.mem member
      obtain ⟨configuration, inForce, made⟩ := Strategy.fullText_of_plan planned
      obtain rfl := Option.some.inj made
      refine ⟨configuration, inForce, ?_⟩
      rcases asked with rfl | rfl <;> rfl
  · rintro page rfl
    rcases ends with ⟨_, _, fault, failed⟩ | ⟨_, comes⟩
    · cases failed
    · generalize outcome_eq : Except.ok page = outcome at comes
      cases comes with
      | unfiltered => cases outcome_eq
      | empty planned =>
          obtain ⟨_, _, made⟩ := Strategy.fullText_of_plan planned
          cases made
      | outside => cases outcome_eq
      | ran plan within _ _ planned valid fetches =>
          cases fetches with
          | uncounted => cases outcome_eq
          | unfetched => cases outcome_eq
          | fetched => rfl

/-- A text search in a session of the caller succeeds where the store has nothing. -/
theorem search_ok {query : Option String} {request : PageRequest} {expression : List Char}
    {state : State} (chosen : Strategy.ofQuery query = .fullText expression)
    (named : state.view.configuration = .ok configuration)
    (valid : ∃ within, window request.page request.size = .ok within)
    (empty : state.store = fun _ _ => .ok ⟨.int 0, [], 0⟩) :
    ∃ page later, (search true query request).runFrom state = (.ok page, later) := by
  obtain ⟨outcome, asked, later, run, _, ends⟩ := search_comes true query request state
  have store : state.view.store = fun _ _ => .ok ⟨.int 0, [], 0⟩ := empty
  rw [chosen, store, named] at ends
  rcases ends with ⟨closed, _⟩ | ⟨_, comes⟩
  · exact absurd (fun _ => .inl rfl) closed
  · cases comes with
    | unfiltered _ refused => cases refused
    | empty => exact ⟨_, later, run⟩
    | outside _ fault _ refused =>
        obtain ⟨within, inRange⟩ := valid
        cases inRange.symm.trans refused
    | ran plan within _ _ planned inside fetches =>
        cases fetches with
        | uncounted _ refused => cases refused
        | unfetched _ _ _ refused => cases refused
        | fetched counted answer counts answers =>
            obtain rfl := Except.ok.inj counts
            obtain rfl := Except.ok.inj answers
            exact ⟨_, later, run⟩

/-- Where the store has nothing, both statements of a text search are executed with the
configuration in force. -/
theorem search_binds {query : Option String} {request : PageRequest} {expression : List Char}
    {state : State} (chosen : Strategy.ofQuery query = .fullText expression)
    (named : state.view.configuration = .ok configuration)
    (valid : ∃ within, window request.page request.size = .ok within)
    (empty : state.store = fun _ _ => .ok ⟨.int 0, [], 0⟩) :
    ∃ page count rows later, (search true query request).runFrom state = (.ok page, later) ∧
      later.journal.statements = state.journal.statements ++ [count, rows] ∧
      count.bindings.lookup "ts_config" = some (.text configuration) ∧
      rows.bindings.lookup "ts_config" = some (.text configuration) := by
  obtain ⟨page, later, run⟩ := search_ok chosen named valid empty
  obtain ⟨outcome, executed, after, runs, statements, bound, both⟩ :=
    search_executes true request chosen state
  obtain ⟨rfl, rfl⟩ := Prod.mk.inj (runs.symm.trans run)
  obtain ⟨count, rows, rfl⟩ := List.length_eq_two.mp (both page rfl)
  have own : ∀ statement ∈ [count, rows],
      statement.bindings.lookup "ts_config" = some (.text configuration) := by
    intro statement member
    obtain ⟨name, had, binds⟩ := bound statement member
    obtain rfl := Except.ok.inj (had.symm.trans named)
    exact binds
  exact ⟨page, count, rows, _, run, statements, own count (by simp), own rows (by simp)⟩

theorem preserves_of_keeps_view {action : Action α} (kept : Keeps State.view action) :
    Preserves (State.IsUnder configuration) action := by
  refine .of_keeps kept fun before after same under => ?_
  rw [State.IsUnder, same]
  exact under

theorem preserves_log (level : Level) (source : Source) (message : List Char) :
    Preserves (State.IsUnder configuration) (log level source message) :=
  preserves_of_keeps_view ((keeps_log _ _ _).map Prod.fst)

theorem preserves_note {statement : Statement}
    (own : AreUnder configuration statement.bindings) :
    Preserves (State.IsUnder configuration) (note fun journal =>
      { journal with statements := journal.statements ++ [statement] }) := by
  intro state under
  refine ⟨under.fits.congr rfl rfl, under.file, under.stored, under.running,
    fun executed member => ?_⟩
  rcases List.mem_append.mp member with before | now
  · exact under.executed executed before
  · rw [List.mem_singleton.mp now]
    exact own

theorem preserves_ask {statement : Statement}
    (own : AreUnder configuration statement.bindings) :
    Preserves (State.IsUnder configuration) (ask statement) :=
  .get_bind fun _ => .bind (preserves_note own) fun _ => .ofExcept _

theorem preserves_execute (handle : Handle) {statement : Statement}
    (own : AreUnder configuration statement.bindings) :
    Preserves (State.IsUnder configuration) (execute handle statement) := by
  cases handle with
  | given => exact preserves_ask own
  | numbered session =>
      exact .bind (preserves_of_keeps_view ((keeps_event _).map Prod.fst)) fun _ =>
        .bind (preserves_of_keeps_view fun _ => rfl) fun _ => preserves_ask own

theorem preserves_countAndFetch (handle : Handle) (select : List Char)
    (clauses : List (List Char)) {bindings : Bindings} (key : SortKey) (window : Window)
    (own : AreUnder configuration bindings) :
    Preserves (State.IsUnder configuration)
      (countAndFetch handle select clauses bindings key window) := by
  have common : AreUnder configuration
      [("limit", .int window.limit), ("offset", .int window.offset)] :=
    areUnder_of_not_mem (by simp [names])
  exact .bind (preserves_execute handle own) fun _ =>
    .bind (preserves_execute handle (own.append common)) fun _ =>
      .bind (.ofExcept _) fun _ => .bind (.ofExcept _) fun _ => .pure _

theorem preserves_activeSearchConfiguration :
    Preserves (State.IsUnder configuration) activeSearchConfiguration := by
  have stored : Preserves (State.IsUnder configuration) storedSearchConfiguration := by
    intro state under
    obtain ⟨entries, read⟩ := storedSearchConfiguration_runFrom state
    have stores : state.view.storedConfiguration = .ok configuration := under.storedConfiguration_eq
    rw [read, stores]
    exact ⟨under.fits.congr rfl rfl, under.file, fun other kept => (Option.some.inj kept).symm,
      under.running, under.executed⟩
  refine .bind (fun state under => ?_) fun setting => ?_
  · rw [applicationSetting_runFrom]
    exact under
  · split
    · split
      · exact stored
      · exact .pure _
    · exact stored

theorem preserves_listIn (handle : Handle) (request : PageRequest) :
    Preserves (State.IsUnder configuration) (listIn handle request) :=
  .bind (.ofExcept _) fun _ => preserves_countAndFetch _ _ _ _ _ (areUnder_range request.range)

theorem preserves_searchColumns (handle : Handle) (conditions : List Query.Condition)
    (request : PageRequest) :
    Preserves (State.IsUnder configuration) (searchColumns handle conditions request) := by
  intro state under
  rw [searchColumns, runFrom_bind, runFrom_ofExcept]
  cases built : filterOf conditions with
  | error fault => exact under
  | ok filtered =>
      refine Preserves.bind (.ofExcept _) (fun _ => preserves_countAndFetch _ _ _ _ _ ?_) state
        under
      exact (areUnder_filterOf built).append (areUnder_range request.range)

theorem preserves_searchText (handle : Handle) (expression : List Char) (request : PageRequest) :
    Preserves (State.IsUnder configuration) (searchText handle expression request) := by
  intro state under
  obtain ⟨later, active, _⟩ := activeSearchConfiguration_runFrom state
  have kept := preserves_activeSearchConfiguration state under
  have same : state.view.configuration = .ok configuration := under.configuration_eq
  rw [same] at active
  rw [active] at kept
  rw [searchText, runFrom_bind_of_ok active]
  refine Preserves.bind (.ofExcept _) (fun _ => preserves_countAndFetch _ _ _ _ _ ?_) later kept
  exact (areUnder_search _).append (areUnder_range request.range)

theorem preserves_runStrategy (query : Option String) (request : PageRequest) (handle : Handle)
    (strategy : Strategy) :
    Preserves (State.IsUnder configuration) (runStrategy query request handle strategy) := by
  cases strategy with
  | listing => exact preserves_listIn handle request
  | columns conditions =>
      exact .bind (preserves_log _ _ _) fun _ => preserves_searchColumns handle conditions request
  | fullText expression =>
      exact .bind (preserves_log _ _ _) fun _ => preserves_searchText handle expression request
  | nothing => exact .bind (preserves_log _ _ _) fun _ => .pure _

theorem preserves_recordIn (handle : Handle) (identifier : Value) :
    Preserves (State.IsUnder configuration) (recordIn handle identifier) := by
  refine .bind (.ofExcept _) fun id => .bind (preserves_execute handle ?_) fun answer => ?_
  · exact areUnder_of_not_mem (by simp [recordStatement, names])
  · split
    · exact .bind (.ofExcept _) fun _ => .pure _
    · exact .bind (preserves_log _ _ _) fun _ => .pure _

theorem preserves_guarded (session : Nat) {work : Handle → Action α}
    (kept : ∀ handle, Preserves (State.IsUnder configuration) (work handle)) :
    Preserves (State.IsUnder configuration) (guarded session work) := by
  refine .bind (.attempt (kept _)) fun outcome => ?_
  split
  · exact .pure _
  · exact .bind (preserves_of_keeps_view ((keeps_rollBack session).map Prod.fst)) fun _ =>
      .throw _

theorem preserves_inSession (given : Bool) {work : Handle → Action α}
    (kept : ∀ handle, Preserves (State.IsUnder configuration) (work handle)) :
    Preserves (State.IsUnder configuration) (inSession given work) := by
  cases given with
  | true => exact kept .given
  | false =>
      refine .get_bind fun state => ?_
      split
      · exact .bind (preserves_of_keeps_view (keeps_ownSession.map Prod.fst)) fun session =>
          .bind (.attempt (preserves_guarded session kept)) fun _ =>
            .bind (preserves_of_keeps_view ((keeps_closeSession session).map Prod.fst)) fun _ =>
              .ofExcept _
      · exact .bind (preserves_of_keeps_view keeps_requestSession) fun session =>
          preserves_guarded session kept

theorem preserves_search (given : Bool) (query : Option String) (request : PageRequest) :
    Preserves (State.IsUnder configuration) (search given query request) := by
  intro state under
  obtain ⟨entries, run⟩ := search_runFrom given query request state
  rw [run]
  exact preserves_inSession given (preserves_runStrategy query request · _) (state.logged entries)
    under

theorem preserves_list (given : Bool) (request : PageRequest) :
    Preserves (State.IsUnder configuration) (list given request) :=
  preserves_inSession given (preserves_listIn · request)

theorem preserves_record (given : Bool) (identifier : Value) :
    Preserves (State.IsUnder configuration) (record? given identifier) :=
  preserves_inSession given (preserves_recordIn · identifier)

theorem preserves_ping : Preserves (State.IsUnder configuration) ping := by
  have reaches : Preserves (State.IsUnder configuration) connect := by
    refine .bind (preserves_of_keeps_view (keeps_engine.map Prod.fst)) fun number =>
      .bind (preserves_of_keeps_view ((keeps_event _).map Prod.fst)) fun _ =>
        .get_bind fun state => ?_
    split
    · exact .throw _
    · exact .pure _
  have probed : AreUnder configuration probe.bindings := areUnder_of_not_mem List.not_mem_nil
  refine .bind (.attempt (.bind reaches fun _ => .bind (preserves_ask probed) fun _ => .pure _))
    fun outcome => ?_
  split
  · exact .pure _
  · exact .bind (preserves_of_keeps_view ((keeps_logFault _ _ _ _).map Prod.fst)) fun _ => .pure _

/-- The search vector is made with the configuration of the file, which is always an identifier. -/
theorem searchVector_runFrom {state : State} {configuration : String}
    (named : state.view.fileConfiguration .table = .ok configuration) :
    ∃ entries, (searchVector .null).runFrom state =
      (.ok (Schema.vectorExpression configuration.toList), state.logged entries) := by
  obtain ⟨entries, read⟩ := searchConfiguration_runFrom .table state
  rw [named] at read
  have identifies : Text.isIdentifier configuration.toList = true := by
    rw [View.fileConfiguration] at named
    split at named <;> cases named
    exact Settings.isIdentifier_searchConfiguration _
  refine ⟨entries, ?_⟩
  rw [searchVector, if_pos (by decide), runFrom_bind_of_ok read, runFrom_ofExcept,
    Schema.searchVector, if_pos identifies]

/-- The state after some more statements that bind nothing. -/
def defined (state : State) (texts : List (List Char)) : State :=
  { state with journal := { state.journal with
      statements := state.journal.statements ++ texts.map (⟨·, []⟩) } }

theorem define_runFrom (texts : List (List Char)) (state : State) :
    (texts.forM define).runFrom state = (.ok (), defined state texts) := by
  induction texts generalizing state with
  | nil => simp [defined]
  | cons text rest ih =>
      have first : (define text).runFrom state = (.ok (), defined state [text]) := rfl
      refine (runFrom_bind_of_ok first).trans ((ih _).trans ?_)
      simp [defined]

/-- Making the table executes its definition and those of its indexes. -/
theorem createTable_runFrom {state : State} {configuration : String}
    (named : state.view.fileConfiguration .table = .ok configuration) :
    ∃ entries, (createTable .null).runFrom state = (.ok (), defined (state.logged entries)
      (Schema.table (Schema.vectorExpression configuration.toList)).definitions) := by
  obtain ⟨entries, made⟩ := searchVector_runFrom named
  rw [createTable, runFrom_bind_of_ok made, runFrom_bind_of_ok (log_runFrom _ _ _ _),
    define_runFrom]
  exact ⟨_, rfl⟩

theorem preserves_createTable :
    Preserves (State.IsUnder configuration) (createTable .null) := by
  intro state under
  obtain ⟨entries, made⟩ :=
    createTable_runFrom (View.IsUnder.fileConfiguration_eq under (by decide))
  rw [made]
  refine ⟨under.fits.congr rfl rfl, under.file, under.stored, under.running,
    fun executed member => ?_⟩
  rcases List.mem_append.mp member with before | now
  · exact under.executed executed before
  · obtain ⟨text, _, rfl⟩ := List.mem_map.mp now
    exact areUnder_of_not_mem List.not_mem_nil

end Action

end AuditTrail.Service
