import AuditTrail.Proofs.Connection.Locator
import Mathlib.Data.List.TakeWhile

/-!
# Redacted locators

A redacted locator is a function of everything but the password: it is read off what stands in
front of the first colon behind the scheme and behind the last `@`.  So the line that reports a new
engine is the same for any two passwords.
-/

namespace AuditTrail.Connection

theorem takeWhile_mark (mark : Char) (before after : List Char) :
    (before ++ mark :: after).takeWhile (· != mark) = before.takeWhile (· != mark) := by
  induction before with
  | nil => simp
  | cons c rest ih =>
      rw [List.cons_append, List.takeWhile_cons, List.takeWhile_cons, ih]

theorem afterLast_append (mark : Char) (before after : List Char) :
    afterLast mark (before ++ mark :: after) = afterLast mark after := by
  have turned : (before ++ mark :: after).reverse = after.reverse ++ mark :: before.reverse := by
    simp
  rw [afterLast, turned, takeWhile_mark, afterLast]

theorem afterLast_of_not_mem {mark : Char} {text : List Char} (absent : mark ∉ text) :
    afterLast mark text = text := by
  have whole : text.reverse.takeWhile (· != mark) = text.reverse := by
    rw [List.takeWhile_eq_self_iff]
    intro c there
    rw [bne_iff_ne]
    rintro rfl
    exact absent (List.mem_reverse.mp there)
  rw [afterLast, whole, List.reverse_reverse]

/-- A text is cut at its last mark. -/
theorem exists_eq_append_afterLast {mark : Char} {text : List Char} (there : mark ∈ text) :
    ∃ before, text = before ++ mark :: afterLast mark text := by
  obtain ⟨after, before, turned, absent⟩ :=
    List.eq_append_cons_of_mem (List.mem_reverse.mpr there)
  have split : text = before.reverse ++ mark :: after.reverse := by
    rw [← List.reverse_reverse text, turned]
    simp
  have last : mark ∉ after.reverse := fun held => absent (List.mem_reverse.mp held)
  refine ⟨before.reverse, ?_⟩
  rw [split, afterLast_append, afterLast_of_not_mem last]

/-- A locator with a user and a password. -/
def locatorOf (scheme user password location : List Char) : List Char :=
  scheme ++ schemeMark ++ (user ++ ':' :: (password ++ '@' :: location))

/-- What logs show in place of a password, with the marks around it. -/
def mask : List Char := ":***@".toList

theorem redact_of_cut? {url scheme rest : List Char}
    (cut : cut? schemeMark url = some (scheme, rest)) (there : '@' ∈ rest) :
    redact url = scheme ++ schemeMark ++
      (rest.take (rest.length - (afterLast '@' rest).length - 1)).takeWhile (· != ':') ++ mask ++
        afterLast '@' rest := by
  have contained : rest.contains '@' = true := List.contains_iff_mem.mpr there
  rw [schemeMark] at cut
  rw [redact, cut]
  dsimp only
  rw [if_pos contained]
  rfl

/-- A redacted locator has no part of the password, wherever colons, slashes and `@` stand. -/
theorem redact_locatorOf {scheme : List Char} (unmarked : ¬ schemeMark <:+: scheme)
    (user password location : List Char) :
    redact (locatorOf scheme user password location) =
      scheme ++ schemeMark ++ user.takeWhile (· != ':') ++ mask ++ afterLast '@' location := by
  have last : afterLast '@' ('@' :: location) = afterLast '@' location := afterLast_append '@' [] _
  obtain ⟨before, ends⟩ : ∃ before, '@' :: location = before ++ '@' :: afterLast '@' location :=
    last ▸ exists_eq_append_afterLast List.mem_cons_self
  -- The last `@` is the one behind the password or a later one, so the first colon is in front.
  have split : user ++ ':' :: (password ++ '@' :: location) =
      (user ++ ':' :: (password ++ before)) ++ '@' :: afterLast '@' location := by
    rw [ends]
    simp only [List.append_assoc, List.cons_append]
  have shown : afterLast '@' (user ++ ':' :: (password ++ '@' :: location)) =
      afterLast '@' location := by
    rw [← List.cons_append, ← List.append_assoc, afterLast_append]
  have taken : (user ++ ':' :: (password ++ '@' :: location)).length -
      (afterLast '@' location).length - 1 = (user ++ ':' :: (password ++ before)).length := by
    rw [split, List.length_append, List.length_cons]
    omega
  rw [locatorOf, redact_of_cut? (cut?_schemeMark unmarked _) (by simp), shown, taken, split,
    List.take_left, takeWhile_mark]

/-- Locators with one scheme, user and location are redacted alike. -/
theorem Parts.redact_url (parts : Parts) :
    redact parts.url = driver ++ schemeMark ++ parts.user.takeWhile (· != ':') ++ mask ++
      afterLast '@' (parts.host ++ ':' :: (parts.port ++ '/' :: parts.database)) := by
  rw [← redact_locatorOf driver_unmarked _ (Text.Percent.encodeField parts.password)]
  exact congrArg redact parts.url_eq

end AuditTrail.Connection

namespace AuditTrail.Service

open Connection

/-- The settings that may hold the password. -/
def passwordNames : List String := ["DATABASE_URL", "DB_PASSWORD", "PGPASSWORD"]

/-- Whether two states have the same settings for the store but for the password: the settings
that hold it may differ in any way, and two given locators in the password. -/
structure State.AgreeButPassword (first second : State) : Prop where
  environment : ∀ name ∉ passwordNames,
    first.environment.get? name = second.environment.get? name
  file : ∀ name ∉ passwordNames, first.files.parts.get? name = second.files.parts.get? name
  given : givenUrl? first.environment = none ∧ givenUrl? second.environment = none ∨
    ∃ scheme user location one other, ¬ schemeMark <:+: scheme ∧
      givenUrl? first.environment = some (locatorOf scheme user one location) ∧
      givenUrl? second.environment = some (locatorOf scheme user other location)

namespace State.AgreeButPassword

variable {first second : State}

theorem part_eq (agree : first.AgreeButPassword second) (name other default : String)
    (known : name ∉ passwordNames ∧ other ∉ passwordNames) :
    part first.environment first.files.parts name other default =
      part second.environment second.files.parts name other default := by
  rw [part, part, either?, either?, agree.environment name known.1, agree.environment other known.2,
    agree.file name known.1]

/-- Only the passwords of the parts differ. -/
theorem parts_eq (agree : first.AgreeButPassword second) :
    { first.parts with password := second.parts.password } = second.parts := by
  rw [State.parts, partsOf, agree.part_eq "DB_USER" "PGUSER" _ (by decide +kernel),
    agree.part_eq "DB_HOST" "PGHOST" _ (by decide +kernel),
    agree.part_eq "DB_PORT" "PGPORT" _ (by decide +kernel),
    agree.part_eq "DB_NAME" "PGDATABASE" _ (by decide +kernel)]
  rfl

theorem redact_locator (agree : first.AgreeButPassword second) :
    redact first.locator = redact second.locator := by
  rw [State.locator, State.locator]
  obtain ⟨one, other⟩ | ⟨scheme, user, location, password, other, unmarked, one, two⟩ := agree.given
  · rw [one, other, Option.getD_none, Option.getD_none, Parts.redact_url, Parts.redact_url,
      ← agree.parts_eq]
  · rw [one, two, Option.getD_some, Option.getD_some, redact_locatorOf unmarked,
      redact_locatorOf unmarked]

theorem numberSetting_eq (agree : first.AgreeButPassword second) {name : String}
    (known : name ∉ passwordNames) (default : Int) :
    numberSetting first.environment name default =
      numberSetting second.environment name default := by
  rw [numberSetting, numberSetting, agree.environment name known]

end State.AgreeButPassword

/-- The line that reports an engine at a locator, if its options can be read. -/
def engineLine (environment : Environment) (url : List Char) : Except Fault (List Char) :=
  (engineOptions environment url).map engineMessage

theorem map_engineOptions {α : Type} {form : EngineOptions → α} {url other : List Char}
    (same : ∀ options : EngineOptions,
      form { options with url := url } = form { options with url := other })
    (environment : Environment) :
    (engineOptions environment url).map form = (engineOptions environment other).map form := by
  rw [engineOptions, engineOptions]
  rcases numberSetting environment "SQLALCHEMY_ECHO" 0 with _ | echo
  · rfl
  rcases numberSetting environment "SQLALCHEMY_POOL_SIZE" 5 with _ | poolSize
  · rfl
  rcases numberSetting environment "SQLALCHEMY_MAX_OVERFLOW" 10 with _ | maxOverflow
  · rfl
  rcases numberSetting environment "SQLALCHEMY_POOL_PRE_PING" 1 with _ | prePing
  · rfl
  exact congrArg Except.ok (same ⟨url, echo != 0, poolSize, maxOverflow, prePing != 0⟩)

theorem engineMessage_eq (options : EngineOptions) :
    engineMessage options =
      "Creating DB engine url=".toList ++ redact options.url ++ " echo=".toList ++
        truthText options.echo ++ " pool_size=".toList ++ integerText options.poolSize ++
        " max_overflow=".toList ++ integerText options.maxOverflow ++ " pre_ping=".toList ++
        truthText options.prePing := rfl

theorem engineLine_of_redact_eq {url other : List Char} (same : redact url = redact other)
    (environment : Environment) : engineLine environment url = engineLine environment other :=
  map_engineOptions (fun options => by rw [engineMessage_eq, engineMessage_eq, same]) environment

theorem State.AgreeButPassword.engineLine_eq {first second : State}
    (agree : first.AgreeButPassword second) :
    engineLine first.environment first.locator = engineLine second.environment second.locator := by
  have options : engineOptions first.environment second.locator =
      engineOptions second.environment second.locator := by
    rw [engineOptions, engineOptions, agree.numberSetting_eq (by decide +kernel),
      agree.numberSetting_eq (by decide +kernel), agree.numberSetting_eq (by decide +kernel),
      agree.numberSetting_eq (by decide +kernel)]
  rw [engineLine_of_redact_eq agree.redact_locator, engineLine, engineLine, options]

/-- A new engine is the last thing that is logged. -/
theorem Action.engine_logs {state later : State} {number : Nat} (fresh : state.engine = none)
    (made : Action.engine.runFrom state = (.ok number, later)) :
    ∃ line, engineLine later.environment later.locator = .ok line ∧
      later.journal.entries.getLast? = some ⟨.info, .connection, line, none⟩ := by
  rw [engine, runFrom_bind_of_ok (runFrom_get state), fresh] at made
  obtain ⟨url, loaded, found, made⟩ := exists_of_runFrom_bind made
  rw [runFrom_bind_of_ok (runFrom_get loaded)] at made
  obtain ⟨options, middle, set, made⟩ := exists_of_runFrom_bind made
  rw [runFrom_ofExcept] at set
  obtain ⟨read, rfl⟩ := Prod.mk.inj set
  obtain ⟨-, rfl⟩ := Prod.mk.inj made
  refine ⟨engineMessage options, ?_, List.getLast?_concat⟩
  rw [url_of_databaseUrl found] at read
  exact congrArg (Except.map engineMessage) read

/-- Redacted locators and the lines that report engines do not depend on the password: neither for a
locator of any form with a user and a password, nor for one that is made up of parts, nor in two
runs of the service whose settings differ in the password alone. -/
theorem Action.engine_hides_password :
    (∀ scheme user password location, ¬ schemeMark <:+: scheme →
      redact (locatorOf scheme user password location) =
        scheme ++ schemeMark ++ user.takeWhile (· != ':') ++ mask ++ afterLast '@' location) ∧
    (∀ (parts : Parts) (password : List Char),
      redact { parts with password := password }.url = redact parts.url) ∧
    ∀ (first second : State) (one other : Nat) (later final : State),
      first.engine = none → second.engine = none →
      engine.runFrom first = (.ok one, later) → engine.runFrom second = (.ok other, final) →
      later.AgreeButPassword final →
        ∃ line, engineLine later.environment later.locator = .ok line ∧
          later.journal.entries.getLast? = some ⟨.info, .connection, line, none⟩ ∧
          final.journal.entries.getLast? = some ⟨.info, .connection, line, none⟩ := by
  refine ⟨fun _ _ _ _ unmarked => redact_locatorOf unmarked _ _ _, fun parts password => ?_,
    fun first second one other later final fresh new made created agree => ?_⟩
  · rw [Parts.redact_url, Parts.redact_url]
  · obtain ⟨line, written, logged⟩ := engine_logs fresh made
    obtain ⟨text, reported, seen⟩ := engine_logs new created
    rw [← agree.engineLine_eq, written] at reported
    obtain rfl := Except.ok.inj reported
    exact ⟨line, written, logged, seen⟩

theorem get?_settings_partsWith {name : String} (known : name ∉ passwordNames)
    (one other : String) :
    (partsWith one).settings.get? name = (partsWith other).settings.get? name := by
  have apart : (name == "DB_PASSWORD") = false := by
    rw [beq_eq_false_iff_ne]
    rintro rfl
    exact known (by decide +kernel)
  simp only [Environment.get?, Parts.settings, List.lookup_cons, apart]
  rfl

/-- A locator with marks in its password is redacted, and two services whose passwords differ log
the same line. -/
theorem Action.engine_hides_password_marks :
    redact "db://u:p@:/x://y@h@x:1/d".toList = "db://u:***@x:1/d".toList ∧
    ∃ later final line,
      engine.runFrom (configuredWith (partsWith "a@b")) = (.ok 1, later) ∧
      engine.runFrom (configuredWith (partsWith ":/ ://")) = (.ok 1, final) ∧
      later.journal.entries.getLast? = some ⟨.info, .connection, line, none⟩ ∧
      final.journal.entries.getLast? = some ⟨.info, .connection, line, none⟩ := by
  obtain ⟨located, -, running⟩ := engine_hides_password
  constructor
  · refine (located "db".toList "u".toList "p@:/x://y".toList "h@x:1/d".toList ?_).trans ?_ <;>
      decide +kernel
  · let first := configuredWith (partsWith "a@b")
    let second := configuredWith (partsWith ":/ ://")
    have made : engine.runFrom first = (.ok 1, (engine.runFrom first).2) := rfl
    have created : engine.runFrom second = (.ok 1, (engine.runFrom second).2) := rfl
    have agree : (engine.runFrom first).2.AgreeButPassword (engine.runFrom second).2 := by
      have set : (engine.runFrom first).2.environment = (partsWith "a@b").settings := by
        decide +kernel
      have chosen : (engine.runFrom second).2.environment = (partsWith ":/ ://").settings := by
        decide +kernel
      refine ⟨fun name known => ?_, fun name known => ?_, .inl ?_⟩
      · rw [set, chosen, get?_settings_partsWith known]
      · have one : (engine.runFrom first).2.files.parts = [] := by decide +kernel
        have other : (engine.runFrom second).2.files.parts = [] := by decide +kernel
        rw [one, other]
      · rw [set, chosen]
        decide +kernel
    obtain ⟨line, -, logged, seen⟩ := running _ _ _ _ _ _ rfl rfl made created agree
    exact ⟨_, _, line, made, created, logged, seen⟩

end AuditTrail.Service
