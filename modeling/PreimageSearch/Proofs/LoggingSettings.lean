import PreimageSearch.Program
import PreimageSearch.Proofs.LogHistory

/-!
# Which settings logging starts with

The environment and the configuration both say whether to log and where to. The settings asked for
let each variable of the environment stand in for its own setting (`askedSwitch`, `askedFile`). The
switch is always heeded. The log file is heeded too, but for one case: where the environment has a
switch and no log file, the configured one is left out (`Dropped`), and the lines go to the error
output.
-/

namespace PreimageSearch

namespace Logging.History

variable {refusal : String → Option FileError} {history : History}

/-- A fresh start has tried to open the file, or none. -/
def Tried (refusal : String → Option FileError) (file : Option String) (history : History) : Prop :=
  history.logger.destination = some (choose refusal file).1 ∧
    history.failure = (choose refusal file).2

/-- Trying to open a file leaves a trace, whether the file opens or not. -/
theorem not_tried_some_of_tried_none (none : Tried refusal none history) (path : String) :
    ¬ Tried refusal (some path) history := by
  rintro ⟨chosen, failed⟩
  rw [none.1] at chosen
  rw [none.2] at failed
  cases refused : refusal path with
  | none => simp [choose, refused] at chosen
  | some error => simp [choose, refused] at failed

/-- What a fresh start makes of its two settings. -/
theorem step_start (refusal : String → Option FileError) (enabled : Bool) (file : Option String) :
    ∃ history, step refusal {} (.start enabled file) = some history ∧
      history.logger.enabled = enabled ∧ (enabled = true → Tried refusal file history) ∧
      (enabled = false → history.logger.destination = none ∧ history.failure = none) := by
  refine ⟨_, rfl, ?_⟩
  show (start refusal enabled file {}).logger.enabled = enabled ∧ _
  rw [logger_start]
  refine ⟨rfl, ?_, ?_⟩
  · rintro rfl
    exact ⟨rfl, rfl⟩
  · rintro rfl
    exact ⟨rfl, rfl⟩

/-- A start from the environment is a start with what its variables say. -/
theorem step_startFrom {settings : Variables} {enabled : Bool}
    (known : settings.enabled? = some enabled) :
    step refusal history (.startFrom settings) =
      step refusal history (.start enabled settings.logFile) := by
  simp only [step, perform, known]
  rfl

end Logging.History

namespace Program

open Logging Logging.History

variable {config : Config} {settings : Variables}

/-- Whether logging is asked for: by the switch of the environment, or else by the configuration. -/
def askedSwitch (config : Config) (settings : Variables) : Bool :=
  match settings.switch with
  | some value => value == "true"
  | none => config.logging.enabled

/-- The log file asked for: that of the environment, or else the configured one. -/
def askedFile (config : Config) (settings : Variables) : Option String :=
  settings.logFile.or config.logging.logFile

/-- The configured log file is left out, for a switch in an environment without a log file. -/
structure Dropped (config : Config) (settings : Variables) : Prop where
  switched : settings.switch ≠ none
  unnamed : settings.logFile = none
  configured : config.logging.logFile ≠ none

/-- The log file that the start of logging names. -/
def heededFile (config : Config) (settings : Variables) : Option String :=
  match settings.switch with
  | some _ => settings.logFile
  | none => askedFile config settings

theorem heededFile_of_not_dropped (kept : ¬ Dropped config settings) :
    heededFile config settings = askedFile config settings := by
  unfold heededFile
  split
  · next value switched =>
    unfold askedFile
    cases unnamed : settings.logFile with
    | some path => rfl
    | none =>
      cases configured : config.logging.logFile with
      | none => rfl
      | some path => exact absurd ⟨by simp [switched], unnamed, by simp [configured]⟩ kept
  · rfl

theorem heededFile_of_dropped (dropped : Dropped config settings) :
    heededFile config settings = none := by
  obtain ⟨value, switched⟩ := Option.ne_none_iff_exists'.1 dropped.switched
  rw [heededFile, switched]
  exact dropped.unnamed

theorem askedFile_of_dropped (dropped : Dropped config settings) :
    ∃ path, askedFile config settings = some path := by
  rw [askedFile, dropped.unnamed, Option.none_or]
  exact Option.ne_none_iff_exists'.1 dropped.configured

/-- Unless the switch is not understood, logging starts with the switch asked for and the log file
heeded. -/
theorem step_startLogging (refusal : String → Option FileError)
    (understood : settings.switch = none ∨ settings.switch = some "true" ∨
      settings.switch = some "false") :
    step refusal {} (startLogging config settings) =
      step refusal {} (.start (askedSwitch config settings) (heededFile config settings)) := by
  unfold startLogging askedSwitch heededFile
  rcases understood with unset | on | off
  · rw [unset]
    rfl
  · have known : settings.enabled? = some true := by simp [Variables.enabled?, on]
    rw [on]
    exact step_startFrom known
  · have known : settings.enabled? = some false := by simp [Variables.enabled?, off]
    rw [off]
    exact step_startFrom known

/-- The settings that logging starts with. It is on exactly if that is asked for. When it is on, it
has tried to open the log file asked for, except where the configured one is dropped: there it has
tried none. When it is off, it has tried none either. -/
theorem startLogging_heeds_settings (refusal : String → Option FileError) (config : Config)
    (settings : Variables)
    (understood : settings.switch = none ∨ settings.switch = some "true" ∨
      settings.switch = some "false") :
    ∃ history, step refusal {} (startLogging config settings) = some history ∧
      history.logger.enabled = askedSwitch config settings ∧
      (history.logger.enabled = true →
        (Tried refusal (askedFile config settings) history ↔ ¬ Dropped config settings) ∧
        (Dropped config settings → Tried refusal none history)) ∧
      (history.logger.enabled = false →
        history.logger.destination = none ∧ history.failure = none) := by
  obtain ⟨history, started, enabled, whenOn, whenOff⟩ :=
    step_start refusal (askedSwitch config settings) (heededFile config settings)
  rw [step_startLogging refusal understood]
  refine ⟨history, started, enabled, fun on => ?_, fun off => whenOff (enabled ▸ off)⟩
  have tried := whenOn (enabled ▸ on)
  have none_tried (dropped : Dropped config settings) : Tried refusal none history := by
    rwa [heededFile_of_dropped dropped] at tried
  refine ⟨⟨fun asked dropped => ?_, fun kept => ?_⟩, none_tried⟩
  · obtain ⟨path, named⟩ := askedFile_of_dropped dropped
    rw [named] at asked
    exact not_tried_some_of_tried_none (none_tried dropped) path asked
  · rwa [heededFile_of_not_dropped kept] at tried

/-- The configuration switches logging on and names a log file; the environment names another. -/
theorem startLogging_heeds_settings_replaced :
    let config : Config := { logging := { enabled := true, logFile := some "run.log" } }
    ∃ history, step (fun _ => none) {} (startLogging config { logFile := some "env.log" }) =
        some history ∧
      history.logger.enabled = true ∧ history.logger.logFile? = some "env.log" := by
  intro config
  obtain ⟨history, started, enabled, whenOn, -⟩ := startLogging_heeds_settings (fun _ => none)
    config { logFile := some "env.log" } (.inl rfl)
  have kept : ¬ Dropped config { logFile := some "env.log" } := fun dropped => dropped.switched rfl
  have tried := (whenOn enabled).1.2 kept
  refine ⟨history, started, enabled, ?_⟩
  rw [Logger.logFile?, tried.1]
  rfl

/-- A switch in the environment does not leave the configured log file as it is: here nothing else
names one, and the lines go to the error output. -/
theorem startLogging_drops_configured_file :
    ¬ ∀ (refusal : String → Option FileError) (config : Config) (settings : Variables)
        (history : History),
      settings.switch = none ∨ settings.switch = some "true" ∨ settings.switch = some "false" →
      step refusal {} (startLogging config settings) = some history →
      history.logger.enabled = true →
      Tried refusal (askedFile config settings) history := by
  intro heeded
  have tried := heeded (fun _ => none) { logging := { logFile := some "x.log" } }
    { switch := some "true" } ⟨⟨true, some .errorOutput⟩, [], none⟩ (.inr (.inl rfl)) rfl rfl
  exact absurd tried.1 (by decide)

end Program

end PreimageSearch
