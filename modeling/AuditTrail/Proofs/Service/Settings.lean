import AuditTrail.Proofs.Service.Search
import AuditTrail.Proofs.Settings

/-!
# Reading settings

Reading the settings of the service writes log entries and changes nothing else.  It fails only for
an infinite page size and for a text search configuration that is nested too deeply to be reported.
-/

namespace AuditTrail.Service

/-- The settings of an application that is made of the file, if it can be made. -/
def View.application (view : View) : Except Fault (List (String × Value)) := do
  let _ ← view.fileConfiguration .startup
  Settings.application view.regions (view.fileSettings .startup)

theorem View.application_of_overwhelms {view : View}
    (overwhelms : view.Overwhelms .startup (view.fileSettings .startup)) :
    view.application = .error .tooNested := by
  rw [application, fileConfiguration, if_pos overwhelms]
  rfl

theorem View.application_of_not_overwhelms {view : View}
    (shown : ¬ view.Overwhelms .startup (view.fileSettings .startup)) :
    view.application = Settings.application view.regions (view.fileSettings .startup) := by
  rw [application, fileConfiguration, if_neg shown]
  rfl

theorem View.exists_fileSettings (view : View) (place : Place) :
    ∃ entries, view.fileSettings place = .map entries := by
  rw [fileSettings]
  split
  · exact ⟨[], rfl⟩
  · split
    · exact ⟨_, rfl⟩
    · exact ⟨[], rfl⟩

namespace Action

theorem applicationSetting_runFrom (name : String) (state : State) :
    (applicationSetting name).runFrom state = (.ok (state.view.setting name), state) := by
  rw [applicationSetting, runFrom_bind_of_ok (runFrom_get state), View.setting,
    show state.view.settings = state.contexts.map Context.settings from rfl]
  cases state.contexts <;> rfl

theorem settingsOr_fileSettings (view : View) (place other : Place) :
    settingsOr other (view.fileSettings place) = pure (view.fileSettings place) := by
  obtain ⟨entries, map⟩ := view.exists_fileSettings place
  rw [map]
  rfl

/-- The zone of settings is found, whatever name they hold. -/
theorem region_runFrom {place : Place} {settings value : Value} {state later : State}
    (loaded : (settingsOr place settings).runFrom state = (.ok value, later)) :
    ∃ entries, (region place settings).runFrom state =
      (.ok (Settings.region later.view.regions value), later.logged entries) := by
  rw [region, runFrom_bind_of_ok loaded]
  dsimp only
  rw [runFrom_bind_of_ok (runFrom_get later)]
  split
  · exact ⟨_, rfl⟩
  · exact ⟨later.journal.entries, rfl⟩

theorem pageSize_runFrom (place : Place) (state : State) :
    ∃ entries, (pageSize place .null).runFrom state =
      (Settings.pageSize (state.view.fileSettings place), state.logged entries) := by
  obtain ⟨entries, loaded⟩ := loadSettings_runFrom place state
  refine ⟨entries, ?_⟩
  rw [pageSize, runFrom_bind_of_ok (show (settingsOr place .null).runFrom state = _ from loaded),
    runFrom_ofExcept]

/-- The settings of an application are those that the file gives, if it gives any. -/
theorem applicationSettings_runFrom (state : State) :
    ∃ entries, applicationSettings.runFrom state =
      (state.view.application, state.logged entries) := by
  obtain ⟨loads, loaded⟩ := loadSettings_runFrom .startup state
  have given : ∀ entries, (settingsOr .startup (state.view.fileSettings .startup)).runFrom
      (state.logged entries) =
      (.ok (state.view.fileSettings .startup), state.logged entries) := by
    intro entries
    rw [settingsOr_fileSettings]
    rfl
  obtain ⟨searches, searched⟩ := searchConfiguration_of_settings .startup (given loads)
  rw [applicationSettings, runFrom_bind_of_ok loaded]
  rw [State.view_logged] at searched
  by_cases overwhelms : state.view.Overwhelms .startup (state.view.fileSettings .startup)
  · rw [if_pos overwhelms] at searched
    rw [View.application_of_overwhelms overwhelms]
    exact ⟨searches, runFrom_bind_of_error searched⟩
  · rw [if_neg overwhelms] at searched
    rw [View.application_of_not_overwhelms overwhelms, runFrom_bind_of_ok searched,
      runFrom_bind_of_ok (runFrom_get _), runFrom_bind, runFrom_ofExcept,
      show ((state.logged loads).logged searches).files.regions = state.view.regions from rfl]
    cases Settings.application state.view.regions (state.view.fileSettings .startup) with
    | error fault => exact ⟨searches, rfl⟩
    | ok made =>
        obtain ⟨entries, found⟩ := region_runFrom (given searches)
        exact ⟨entries, (runFrom_bind_of_ok found).trans rfl⟩

end Action

end AuditTrail.Service
