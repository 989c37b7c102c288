import AuditTrail.Proofs.Http.Invariant
import AuditTrail.Proofs.Http.Startup
import AuditTrail.Proofs.Service.Configuration

/-!
# One configuration for index and query

The search vector of the table and the text searches are made with the same text search
configuration, whether a search runs inside an application or outside of any, and whatever has been
done before, as long as every place has room for the file.  A file that is nested too deeply for one
place only is read at one and not at the other, and then they differ.
-/

namespace AuditTrail

namespace Text

theorem isQuote_of_isIdentifierRest {c : Char} (rest : isIdentifierRest c = true) :
    isQuote c = false := by
  have marks : isIdentifierRest '"' = false ∧ isIdentifierRest '\'' = false := by decide +kernel
  cases quote : isQuote c with
  | false => rfl
  | true =>
      simp only [isQuote, Bool.or_eq_true, beq_iff_eq] at quote
      rcases quote with rfl | rfl
      · exact absurd rest (by simp [marks.1])
      · exact absurd rest (by simp [marks.2])

/-- An identifier has no quotation mark. -/
theorem isQuote_of_isIdentifier {text : List Char} (identifies : isIdentifier text = true) :
    ∀ c ∈ text, isQuote c = false := by
  cases text with
  | nil => cases identifies
  | cons first rest =>
      rw [isIdentifier, Bool.and_eq_true, List.all_eq_true] at identifies
      intro c member
      rcases List.mem_cons.mp member with rfl | later
      · exact isQuote_of_isIdentifierRest (by simp [isIdentifierRest, identifies.1])
      · exact isQuote_of_isIdentifierRest (identifies.2 c later)

end Text

theorem Settings.lookup_of_application {regions : Regions} {settings : Value}
    {made : List (String × Value)} (read : application regions settings = .ok made) :
    made.lookup "TEXT_SEARCH_CONFIG" = some (.text (searchConfiguration settings)) := by
  obtain ⟨size, _, read⟩ := ok_of_bind read
  rw [← Except.ok.inj read]
  simp [Value.lookup_insert]

/-- The state in another part of the stack. -/
def Service.State.moved (state : State) (room : Place → Room) : State :=
  { state with files := { state.files with room } }

namespace Http

open Service Action

/-- The states of a service that has started in a state.  Applications are made at any time, and
their requests begin and end; searches, listings and look-ups run inside and outside of them, with
and without a session of the caller, and in any part of the stack that has room for the file. -/
inductive Reached (start : State) : State → Prop where
  | start : Reached start start
  | logged {state : State} (before : Reached start state) (entries : List LogEntry) :
      Reached start (state.logged entries)
  | moved {state : State} (before : Reached start state) (room : Place → Room)
      (fits : (state.moved room).view.Fits) : Reached start (state.moved room)
  | searched {state : State} (before : Reached start state) (given : Bool)
      (query : Option String) (request : PageRequest) :
      Reached start ((search given query request).runFrom state).2
  | listed {state : State} (before : Reached start state) (given : Bool) (request : PageRequest) :
      Reached start ((list given request).runFrom state).2
  | looked {state : State} (before : Reached start state) (given : Bool) (identifier : Value) :
      Reached start ((record? given identifier).runFrom state).2
  | pinged {state : State} (before : Reached start state) : Reached start (ping.runFrom state).2
  | tabled {state : State} (before : Reached start state) :
      Reached start ((createTable .null).runFrom state).2
  | entered {state earlier later : State} {application : Application}
      (before : Reached start state) (origin : Reached start earlier)
      (created : Application.create.runFrom earlier = (.ok application, later)) :
      Reached start (state.entered application.settings)
  | released {state : State} (before : Reached start state) : Reached start state.released

variable {start state : State} {configuration : String}

theorem isUnder_released (under : state.IsUnder configuration) :
    state.released.IsUnder configuration := by
  have view : state.released.view = { state.view with settings := state.view.settings.tail } := by
    rw [State.released]
    split <;> simp [State.view, State.closed]
  rw [State.IsUnder, view]
  exact ⟨under.fits.congr rfl rfl, under.file, under.stored,
    fun settings running => under.running settings (List.mem_of_mem_tail running), under.executed⟩

/-- The application has the configuration of the file that it was made from. -/
theorem lookup_of_create {application : Application} {later : State}
    (under : state.IsUnder configuration)
    (created : Application.create.runFrom state = (.ok application, later)) :
    application.settings.lookup "TEXT_SEARCH_CONFIG" = some (.text configuration) := by
  obtain ⟨entries, creates⟩ := Application.create_runFrom state
  rw [creates,
    View.application_of_not_overwhelms (under.fits.shown .startup (by decide))] at created
  cases read : Settings.application state.view.regions (state.view.fileSettings .startup) with
  | error fault =>
      rw [read] at created
      cases created
  | ok made =>
      rw [read] at created
      obtain ⟨rfl, _⟩ : ⟨made, none⟩ = application ∧ state.logged entries = later := by
        simpa using created
      have named := View.IsUnder.searchConfiguration_eq under (by decide : Place.startup ∈ _)
      exact (Settings.lookup_of_application read).trans
        (congrArg (fun name => some (Value.text name)) named)

theorem isUnder_moved {room : Place → Room} (under : state.IsUnder configuration)
    (fits : (state.moved room).view.Fits) : (state.moved room).IsUnder configuration := by
  refine ⟨fits, ?_, under.stored, under.running, under.executed⟩
  rw [under.fits.fileSettings_eq fits rfl (by decide : Place.search ∈ _) (by decide)]
  exact under.file

theorem Reached.isUnder (reached : Reached start state) (under : start.IsUnder configuration) :
    state.IsUnder configuration := by
  induction reached with
  | start => exact under
  | logged _ entries ih => exact ih
  | moved _ room fits ih => exact isUnder_moved ih fits
  | searched _ given query request ih => exact preserves_search given query request _ ih
  | listed _ given request ih => exact preserves_list given request _ ih
  | looked _ given identifier ih => exact preserves_record given identifier _ ih
  | pinged _ ih => exact preserves_ping _ ih
  | tabled _ ih => exact preserves_createTable _ ih
  | entered _ _ created ih origin =>
      refine ⟨ih.fits.congr rfl rfl, ih.file, ih.stored, fun settings running => ?_, ih.executed⟩
      rcases List.mem_cons.mp running with rfl | outer
      · exact lookup_of_create origin created
      · exact ih.running settings outer
  | released _ ih => exact isUnder_released ih

theorem withstands_reached (start : State) : Withstands (Reached start) where
  logged _ entries before := before.logged entries
  call made _ before := by
    cases made with
    | search query request => exact before.searched false query request
    | list request => exact before.listed false request
    | record identifier => exact before.looked false identifier
  ping _ before := before.pinged

/-- A request to an application leads from one state of the service to another. -/
theorem Reached.served (reached : Reached start state) {earlier later : State}
    {application : Application} (origin : Reached start earlier)
    (created : Application.create.runFrom earlier = (.ok application, later)) (clock : Clock)
    (request : Request) : Reached start ((application.serve clock request).runFrom state).2 := by
  obtain ⟨response, inside, serves, before⟩ :=
    (withstands_reached start).serve application clock request (reached.entered origin created)
  rw [serves]
  exact before.released

theorem search_executes_under (under : state.IsUnder configuration) (given : Bool)
    {query : Option String} (request : PageRequest) {expression : List Char}
    (chosen : Strategy.ofQuery query = .fullText expression) :
    ∃ outcome executed later, (search given query request).runFrom state = (outcome, later) ∧
      later.journal.statements = state.journal.statements ++ executed ∧
      (∀ statement ∈ executed,
        statement.bindings.lookup "ts_config" = some (.text configuration)) ∧
      ∀ page, outcome = .ok page → executed.length = 2 := by
  have same : state.view.configuration = .ok configuration := under.configuration_eq
  obtain ⟨outcome, executed, later, run, statements, bound, both⟩ :=
    search_executes given request chosen state
  refine ⟨outcome, executed, later, run, statements, fun statement member => ?_, both⟩
  obtain ⟨name, inForce, binds⟩ := bound statement member
  obtain rfl := Except.ok.inj (inForce.symm.trans same)
  exact binds

/-- Whatever the file of the settings holds that the places where it is read have room for, it names
one text search configuration without quotation marks.  In every state of the service the table can
be made, with a search vector under that configuration, every statement that was executed has no
other, and every text search executes its statements with it, inside an application or outside. -/
theorem one_configuration {start : State} (fits : start.view.Fits)
    (fresh : start.searchConfiguration = none) (idle : start.contexts = [])
    (silent : start.journal.statements = []) :
    let configuration := Settings.searchConfiguration (start.view.fileSettings .table)
    let vector := "to_tsvector('".toList ++ configuration.toList ++ "', ".toList ++
      Schema.vectorSource ++ [')']
    (∀ c ∈ configuration.toList, Text.isQuote c = false) ∧
    ∀ state, Reached start state →
      (∃ later, (searchVector .null).runFrom state = (.ok vector, later)) ∧
      (∃ later, (createTable .null).runFrom state = (.ok (), later) ∧
        later.journal.statements = state.journal.statements ++
          (Schema.table vector).definitions.map (⟨·, []⟩)) ∧
      (∀ statement ∈ state.journal.statements,
        Sql.AreUnder configuration statement.bindings) ∧
      (∀ given query request expression, Strategy.ofQuery query = .fullText expression →
        ∃ outcome executed later,
          (search given query request).runFrom state = (outcome, later) ∧
          later.journal.statements = state.journal.statements ++ executed ∧
          (∀ statement ∈ executed,
            statement.bindings.lookup "ts_config" = some (.text configuration)) ∧
          ∀ page, outcome = .ok page → executed.length = 2) ∧
      ∀ earlier made application, Reached start earlier →
        Application.create.runFrom earlier = (.ok application, made) →
        ∀ clock request, Reached start ((application.serve clock request).runFrom state).2 := by
  intro configuration vector
  have begun : start.IsUnder configuration := by
    refine ⟨fits, ?_, ?_, ?_, ?_⟩
    · exact congrArg _ (fits.fileSettings_eq fits rfl (by decide) (by decide))
    · simp [State.view, fresh]
    · simp [State.view, idle]
    · simp [State.view, silent]
  refine ⟨Text.isQuote_of_isIdentifier begun.isIdentifier, fun state reached => ?_⟩
  have under := reached.isUnder begun
  have named : state.view.fileConfiguration .table = .ok configuration :=
    under.fileConfiguration_eq (by decide)
  refine ⟨?_, ?_, under.executed, fun given query request expression chosen =>
    search_executes_under under given request chosen, fun earlier made application origin created =>
    reached.served origin created⟩
  · obtain ⟨entries, made⟩ := searchVector_runFrom named
    exact ⟨_, made⟩
  · obtain ⟨entries, made⟩ := createTable_runFrom named
    exact ⟨_, made, rfl⟩

/-- A request for ten records. -/
def tenRecords : PageRequest := ⟨1, 10, ⟨none, none⟩, none, true⟩

/-- A service whose file names another configuration, between blanks. -/
def simpleService : State :=
  Application.withSettings "\x7b\"text_search_config\": \" simple \"\x7d"

theorem fits_simpleService : simpleService.view.Fits where
  read data text file decoded place _ := by
    have reads : (simpleService.view.file.bind Text.Utf8.decode?).map
        (fun text => (Json.read 100 text).toOption.isSome) = some true := by
      decide +kernel
    rw [file, Option.bind_some, decoded, Option.map_some] at reads
    intro deep
    rw [show (simpleService.view.room place).read = 100 from rfl] at deep
    rw [deep] at reads
    cases reads
  shown := by decide +kernel

/-- Both statements of a text search are executed with the configuration of the file. -/
theorem one_configuration_simple :
    simpleService.view.Fits ∧ simpleService.searchConfiguration = none ∧
    simpleService.contexts = [] ∧ simpleService.journal.statements = [] ∧
    Strategy.ofQuery (some "login") = .fullText "login:*".toList ∧
    (∃ outcome count page later,
      (search true (some "login") tenRecords).runFrom simpleService = (outcome, later) ∧
      later.journal.statements = [count, page] ∧
      count.bindings.lookup "ts_config" = some (.text "simple") ∧
      page.bindings.lookup "ts_config" = some (.text "simple")) ∧
    ∃ made, (searchVector .null).runFrom simpleService =
      (.ok ("to_tsvector('simple', ".toList ++ Schema.vectorSource ++ [')']), made) := by
  have chosen : Strategy.ofQuery (some "login") = .fullText "login:*".toList := by decide +kernel
  have named :
      Settings.searchConfiguration (simpleService.view.fileSettings .table) = "simple" := by
    decide +kernel
  obtain ⟨_, states⟩ := @one_configuration simpleService fits_simpleService rfl rfl rfl
  obtain ⟨⟨made, vector⟩, _, _, searches, _⟩ := states simpleService .start
  obtain ⟨outcome, executed, later, run, statements, bound, both⟩ :=
    searches true (some "login") tenRecords _ chosen
  have inForce : simpleService.view.configuration = .ok "simple" :=
    ok_of_toOption (by decide +kernel)
  obtain ⟨found, _, succeeds⟩ : ∃ page later,
      (search true (some "login") tenRecords).runFrom simpleService = (.ok page, later) :=
    search_ok chosen inForce ⟨_, rfl⟩ rfl
  obtain ⟨answered, -⟩ := Prod.mk.inj (run.symm.trans succeeds)
  obtain ⟨count, page, rfl⟩ := List.length_eq_two.mp (both found answered)
  rw [named] at vector bound
  exact ⟨fits_simpleService, rfl, rfl, rfl, chosen, ⟨outcome, count, page, later, run, statements,
    bound count (by simp), bound page (by simp)⟩, made, vector⟩

/-- A service whose file has a list beside the configuration, with no room for that list when a text
search reads the file. -/
def nestedService : State :=
  (Application.withSettings "\x7b\"text_search_config\": \"german\", \"x\": []\x7d").moved
    fun place => if place = .search then ⟨1, 1⟩ else ⟨2, 1⟩

/-- The table is made with the configuration of the file, and text searches are executed with
another one. -/
theorem one_configuration_nested :
    (∃ made, (searchVector .null).runFrom nestedService =
      (.ok ("to_tsvector('german', ".toList ++ Schema.vectorSource ++ [')']), made)) ∧
    ∃ found count page later,
      (search true (some "login") tenRecords).runFrom nestedService = (.ok found, later) ∧
      later.journal.statements = [count, page] ∧
      count.bindings.lookup "ts_config" = some (.text "english") ∧
      page.bindings.lookup "ts_config" = some (.text "english") := by
  have chosen : Strategy.ofQuery (some "login") = .fullText "login:*".toList := by decide +kernel
  have inForce : nestedService.view.configuration = .ok "english" :=
    ok_of_toOption (by decide +kernel)
  have named : nestedService.view.fileConfiguration .table = .ok "german" :=
    ok_of_toOption (by decide +kernel)
  obtain ⟨entries, made⟩ := searchVector_runFrom named
  exact ⟨⟨_, made⟩, search_binds chosen inForce ⟨_, rfl⟩ rfl⟩

end Http

end AuditTrail
