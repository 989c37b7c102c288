import AuditTrail.Proofs.Service.Search
import AuditTrail.Proofs.Text.Percent

/-!
# The parts of a locator

A locator that is made up of parts can be taken apart again.  All parts come back as they were set
but for the password, which comes back with plus signs for its spaces: it is written as a form
field, and a locator is not read as one.
-/

namespace AuditTrail.Connection

open Text

theorem isPrefixOf_eq_false {mark text : List Char} (absent : ¬ mark <+: text) :
    mark.isPrefixOf text = false :=
  Bool.eq_false_iff.mpr fun begins => absent (List.isPrefixOf_iff_prefix.mp begins)

/-- A text is cut at the first occurrence of a character. -/
theorem cut?_character {mark : Char} {before : List Char} (absent : mark ∉ before)
    (after : List Char) : cut? [mark] (before ++ mark :: after) = some (before, after) := by
  induction before with
  | nil => simp [cut?]
  | cons c rest ih =>
      rw [List.mem_cons, not_or] at absent
      have later : [mark].isPrefixOf (c :: (rest ++ mark :: after)) = false :=
        isPrefixOf_eq_false fun begins => absent.1 (List.cons_prefix_cons.mp begins).1
      rw [List.cons_append, cut?, later, ih absent.2]
      rfl

/-- The mark behind the scheme of a locator. -/
def schemeMark : List Char := "://".toList

/-- A text is cut at the first mark of a scheme, as that mark does not overlap itself. -/
theorem cut?_schemeMark {scheme : List Char} (unmarked : ¬ schemeMark <:+: scheme)
    (rest : List Char) : cut? schemeMark (scheme ++ schemeMark ++ rest) = some (scheme, rest) := by
  induction scheme with
  | nil => rfl
  | cons c more ih =>
      rw [List.infix_cons_iff, not_or] at unmarked
      have later : ¬ schemeMark <+: c :: (more ++ schemeMark ++ rest) := by
        -- Whatever part of the mark the scheme ends in, the next character is the wrong one.
        rcases more with _ | ⟨second, _ | ⟨third, more⟩⟩
        · simp [schemeMark]
        · simp [schemeMark]
        · simpa [schemeMark] using unmarked.1
      rw [List.cons_append, List.cons_append, cut?, isPrefixOf_eq_false later, ih unmarked.2]
      rfl

/-- The parts that a locator shows; its user and its password are decoded. -/
def Parts.ofUrl? (url : List Char) : Option Parts := do
  let (_, rest) ← cut? schemeMark url
  let (user, rest) ← cut? [':'] rest
  let (password, rest) ← cut? ['@'] rest
  let (host, rest) ← cut? [':'] rest
  let (port, database) ← cut? ['/'] rest
  pure ⟨Percent.decode user, Percent.decode password, host, port, database⟩

/-- Whether all parts but the password are free of the characters that mean something in a
locator. -/
def Parts.IsPlain (parts : Parts) : Prop :=
  ∀ mark ∈ '%' :: Percent.delimiters,
    mark ∉ parts.user ∧ mark ∉ parts.host ∧ mark ∉ parts.port ∧ mark ∉ parts.database

/-- The scheme of a locator that is made up of parts. -/
def driver : List Char := "postgresql+psycopg".toList

theorem driver_unmarked : ¬ schemeMark <:+: driver := by decide +kernel

theorem Parts.url_eq (parts : Parts) : parts.url = driver ++ schemeMark ++ (parts.user ++ ':' ::
    (Percent.encodeField parts.password ++ '@' :: (parts.host ++ ':' ::
      (parts.port ++ '/' :: parts.database)))) := by
  have written : parts.url = "postgresql+psycopg://".toList ++ parts.user ++ ':' ::
      Percent.encodeField parts.password ++ '@' :: parts.host ++ ':' :: parts.port ++ '/' ::
      parts.database := rfl
  have begins : "postgresql+psycopg://".toList = driver ++ schemeMark := by decide +kernel
  rw [written, begins]
  simp only [List.append_assoc, List.cons_append]

/-- A locator gives its parts back, with plus signs for the spaces of the password. -/
theorem Parts.ofUrl?_url {parts : Parts} (plain : parts.IsPlain) :
    ofUrl? parts.url = some { parts with password := Percent.plused parts.password } := by
  obtain ⟨unescaped, _⟩ := plain '%' List.mem_cons_self
  obtain ⟨uncolonized, whole, numbered, _⟩ := plain ':' (by decide +kernel)
  obtain ⟨_, _, unslashed, _⟩ := plain '/' (by decide +kernel)
  have hidden : '@' ∉ Percent.encodeField parts.password :=
    Percent.not_mem_encodeField (by decide +kernel)
  rw [url_eq, ofUrl?, cut?_schemeMark driver_unmarked]
  simp only [Option.bind_eq_bind, Option.bind_some, cut?_character uncolonized,
    cut?_character hidden, cut?_character whole, cut?_character unslashed,
    Percent.decode_of_not_mem unescaped, Percent.decode_encodeField, Option.pure_def]

/-- All parts come back exactly when the password has no space. -/
theorem Parts.ofUrl?_url_eq_some_iff {parts : Parts} (plain : parts.IsPlain) :
    ofUrl? parts.url = some parts ↔ ' ' ∉ parts.password := by
  rw [ofUrl?_url plain, Option.some.injEq, ← Percent.plused_eq_self_iff]
  exact ⟨fun same => congrArg Parts.password same, fun same => by rw [same]⟩

/-- Settings for some parts. -/
def Parts.settings (parts : Parts) : Environment :=
  [("DB_USER", String.ofList parts.user), ("DB_PASSWORD", String.ofList parts.password),
    ("DB_NAME", String.ofList parts.database), ("DB_HOST", String.ofList parts.host),
    ("DB_PORT", String.ofList parts.port)]

/-- Whether no part is empty. -/
def Parts.IsFilled (parts : Parts) : Prop :=
  parts.user ≠ [] ∧ parts.password ≠ [] ∧ parts.host ≠ [] ∧ parts.port ≠ [] ∧ parts.database ≠ []

theorem part_of_get {environment : Environment} {first : String} {text : List Char}
    (set : environment.get? first = some (String.ofList text)) (filled : text ≠ [])
    (file : Environment) (second default : String) :
    part environment file first second default = text := by
  have there : (String.ofList text).isEmpty = false := by simpa using filled
  simp [part, either?, set, there]

/-- Any parts can be set, if none is empty. -/
theorem Parts.partsOf_settings {parts : Parts} (filled : parts.IsFilled) (file : Environment) :
    partsOf parts.settings file = parts := by
  obtain ⟨user, password, host, port, database⟩ := filled
  rw [partsOf, part_of_get rfl user, part_of_get rfl password, part_of_get rfl host,
    part_of_get rfl port, part_of_get rfl database]

theorem part_of_set {environment : Environment} {first second value : String}
    (found : either? environment first second = some value) (file other : Environment)
    (default : String) :
    part environment file first second default = part environment other first second default := by
  rw [part, part, found]

/-- Without a missing part the file is not needed. -/
theorem partsOf_of_not_needsFile {environment : Environment}
    (complete : needsFile environment = false) (file : Environment) :
    partsOf environment [] = partsOf environment file := by
  have set : ∀ names ∈ partNames, ∃ value, either? environment names.1 names.2 = some value := by
    intro names known
    have there := List.any_eq_false.mp complete names known
    exact Option.ne_none_iff_exists'.mp (by simpa using there)
  obtain ⟨_, user⟩ := set ("DB_USER", "PGUSER") (by simp [partNames])
  obtain ⟨_, password⟩ := set ("DB_PASSWORD", "PGPASSWORD") (by simp [partNames])
  obtain ⟨_, host⟩ := set ("DB_HOST", "PGHOST") (by simp [partNames])
  obtain ⟨_, port⟩ := set ("DB_PORT", "PGPORT") (by simp [partNames])
  obtain ⟨_, database⟩ := set ("DB_NAME", "PGDATABASE") (by simp [partNames])
  rw [partsOf, partsOf, part_of_set user [] file, part_of_set password [] file,
    part_of_set host [] file, part_of_set port [] file, part_of_set database [] file]

end AuditTrail.Connection

namespace AuditTrail.Service

open Text Connection

/-- The entries of the file of parts; none when it cannot be used. -/
def Files.parts (files : Files) : Environment :=
  match files.connection with
  | none => []
  | some data =>
    match (Utf8.decode? data).map (Json.read (files.room .connection).read) with
    | some (.ok (.map entries)) => fileEntries entries
    | _ => []

/-- The parts that a state sets. -/
def State.parts (state : State) : Parts := partsOf state.environment state.files.parts

/-- The locator of the database: the given one, else that of the parts. -/
def State.locator (state : State) : List Char :=
  (givenUrl? state.environment).getD state.parts.url

namespace Action

theorem connectionFile_runFrom (state : State) :
    ∃ entries, connectionFile.runFrom state = (.ok state.files.parts, state.logged entries) := by
  rw [connectionFile, runFrom_bind_of_ok (runFrom_get state), Files.parts]
  cases state.files.connection with
  | none => exact ⟨state.journal.entries, rfl⟩
  | some data =>
      cases decoded : Utf8.decode? data with
      | none =>
          simp only [decoded, Option.map_none]
          exact ⟨_, rfl⟩
      | some text =>
          simp only [decoded, Option.map_some]
          cases read : Json.read (state.files.room .connection).read text with
          | error trouble => exact ⟨_, rfl⟩
          | ok value => cases value <;> exact ⟨_, rfl⟩

/-- The environment files, in the order in which they are read. -/
def loadEnvironments : Action Unit := do
  let files := (← get).files
  loadEnvironment files.backendEnvironment "loading backend/.env"
  loadEnvironment files.rootEnvironment "loading root/.env"

theorem databaseUrl_eq : databaseUrl = (do
    loadEnvironments
    let environment := (← get).environment
    match givenUrl? environment with
    | some url => pure url
    | none =>
      let file ← if needsFile environment then connectionFile else pure []
      pure (partsOf environment file).url) := by
  simp only [loadEnvironments, bind_assoc]
  rfl

/-- Once the environment files are read, the locator is that of the state. -/
theorem databaseUrl_of_loadEnvironments {state loaded : State}
    (loads : loadEnvironments.runFrom state = (.ok (), loaded)) :
    ∃ entries, databaseUrl.runFrom state = (.ok loaded.locator, loaded.logged entries) := by
  rw [databaseUrl_eq, runFrom_bind_of_ok loads, runFrom_bind_of_ok (runFrom_get loaded),
    State.locator, State.parts]
  dsimp only
  cases givenUrl? loaded.environment with
  | some url => exact ⟨loaded.journal.entries, rfl⟩
  | none =>
      obtain ⟨entries, read⟩ := connectionFile_runFrom loaded
      cases needed : needsFile loaded.environment with
      | true => exact ⟨entries, runFrom_bind_of_ok read⟩
      | false =>
          refine ⟨loaded.journal.entries, ?_⟩
          rw [Option.getD_none, ← partsOf_of_not_needsFile needed]
          rfl

/-- A locator that is found is that of the state it is found in. -/
theorem url_of_databaseUrl {state later : State} {url : List Char}
    (found : databaseUrl.runFrom state = (.ok url, later)) : url = later.locator := by
  rw [databaseUrl_eq] at found
  obtain ⟨_, loaded, loads, _⟩ := exists_of_runFrom_bind found
  obtain ⟨entries, finds⟩ := databaseUrl_of_loadEnvironments loads
  rw [← databaseUrl_eq, finds] at found
  obtain ⟨same, rfl⟩ := Prod.mk.inj found
  exact (Except.ok.inj same).symm

/-- Without environment files a locator is always found. -/
theorem databaseUrl_runFrom {state : State} (alone : state.files.backendEnvironment = none)
    (single : state.files.rootEnvironment = none) :
    ∃ entries, databaseUrl.runFrom state = (.ok state.locator, state.logged entries) := by
  refine databaseUrl_of_loadEnvironments ?_
  rw [loadEnvironments, runFrom_bind_of_ok (runFrom_get state)]
  dsimp only
  rw [alone, single]
  rfl

end Action

/-- Any parts can be set, if none is empty, and without environment files their locator is found. -/
theorem State.databaseUrl_of_settings {parts : Parts} {state : State} (filled : parts.IsFilled)
    (set : state.environment = parts.settings) (alone : state.files.backendEnvironment = none)
    (single : state.files.rootEnvironment = none) :
    givenUrl? state.environment = none ∧ state.parts = parts ∧
      ∃ entries, Action.databaseUrl.runFrom state = (.ok parts.url, state.logged entries) := by
  have ungiven : givenUrl? state.environment = none := by
    rw [set]
    rfl
  have configured : state.parts = parts := by
    rw [State.parts, set, Parts.partsOf_settings filled]
  obtain ⟨entries, found⟩ := Action.databaseUrl_runFrom alone single
  refine ⟨ungiven, configured, entries, ?_⟩
  rw [found, locator, ungiven, Option.getD_none, configured]

/-- The locator that is made up of the parts that are set gives the user, the host, the port and
the database back, and the password with plus signs for its spaces: so it gives all parts back
exactly when the password has no space.  Any parts can be set, if none is empty. -/
theorem State.parts_read_back (state : State) :
    (∀ (later : State) (url : List Char), Action.databaseUrl.runFrom state = (.ok url, later) →
      givenUrl? later.environment = none → later.parts.IsPlain →
      Parts.ofUrl? url =
          some { later.parts with password := Text.Percent.plused later.parts.password } ∧
        (Parts.ofUrl? url = some later.parts ↔ ' ' ∉ later.parts.password)) ∧
    ∀ parts : Parts, parts.IsFilled → state.environment = parts.settings →
      state.files.backendEnvironment = none → state.files.rootEnvironment = none →
      givenUrl? state.environment = none ∧ state.parts = parts ∧
        ∃ entries, Action.databaseUrl.runFrom state = (.ok parts.url, state.logged entries) := by
  refine ⟨fun later url found ungiven plain => ?_, fun parts filled set alone single =>
    databaseUrl_of_settings filled set alone single⟩
  have made : url = later.parts.url := by
    rw [Action.url_of_databaseUrl found, locator, ungiven, Option.getD_none]
  rw [made]
  exact ⟨Parts.ofUrl?_url plain, Parts.ofUrl?_url_eq_some_iff plain⟩

/-- Parts with a password. -/
def partsWith (password : String) : Parts :=
  ⟨"auditlog".toList, password.toList, "127.0.0.1".toList, "5432".toList, "auditlog".toList⟩

/-- A service for which some parts are set, without any file. -/
def configuredWith (parts : Parts) : State :=
  .initial parts.settings (.absent "config".toList) fun _ _ => .ok ⟨.int 0, [], 0⟩

theorem isPlain_partsWith (password : String) : (partsWith password).IsPlain := by
  have free : ('%' :: Percent.delimiters).all (fun mark => decide (mark ∉ "auditlog".toList ∧
      mark ∉ "127.0.0.1".toList ∧ mark ∉ "5432".toList ∧ mark ∉ "auditlog".toList)) = true := by
    decide +kernel
  exact fun mark there => of_decide_eq_true (List.all_eq_true.mp free mark there)

theorem isFilled_partsWith {password : String} (filled : password.toList ≠ []) :
    (partsWith password).IsFilled := by
  have others : "auditlog".toList ≠ [] ∧ "127.0.0.1".toList ≠ [] ∧ "5432".toList ≠ [] := by
    decide +kernel
  exact ⟨others.1, filled, others.2.1, others.2.2, others.1⟩

/-- A password of delimiters comes back, with a plus sign for its space. -/
theorem State.parts_read_back_delimiters :
    ∃ url later, Action.databaseUrl.runFrom (configuredWith (partsWith ":/@ %+é")) =
        (.ok url, later) ∧
      Parts.ofUrl? url = some (partsWith ":/@+%+é") := by
  obtain ⟨reads, sets⟩ := State.parts_read_back (configuredWith (partsWith ":/@ %+é"))
  obtain ⟨ungiven, configured, entries, found⟩ :=
    sets (partsWith ":/@ %+é") (isFilled_partsWith (by decide +kernel)) rfl rfl rfl
  refine ⟨_, _, found, ?_⟩
  have set : ((configuredWith (partsWith ":/@ %+é")).logged entries).parts =
      partsWith ":/@ %+é" := configured
  have plain := set.symm ▸ isPlain_partsWith ":/@ %+é"
  rw [(reads _ _ found ungiven plain).1, set]
  decide +kernel

/-- A password with a space does not come back. -/
theorem State.parts_lost_blank : ∃ url later,
    Action.databaseUrl.runFrom (configuredWith (partsWith "a b")) = (.ok url, later) ∧
      Parts.ofUrl? url = some (partsWith "a+b") ∧ Parts.ofUrl? url ≠ some (partsWith "a b") := by
  have filled : (partsWith "a b").IsFilled := isFilled_partsWith (by decide +kernel)
  have set : (configuredWith (partsWith "a b")).environment = (partsWith "a b").settings := rfl
  obtain ⟨_, _, entries, found⟩ := databaseUrl_of_settings filled set rfl rfl
  refine ⟨_, _, found, ?_⟩
  rw [Parts.ofUrl?_url (isPlain_partsWith "a b")]
  decide +kernel

end AuditTrail.Service
