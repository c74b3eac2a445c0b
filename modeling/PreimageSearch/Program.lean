import PreimageSearch.Config
import PreimageSearch.Logging
import PreimageSearch.Session

/-!
# The console program

What the program does from its arguments, its environment, its working directory and the operator's
script: it reads the configuration, starts logging, notes the configuration and holds a session.
-/

namespace PreimageSearch

/-- The variables of the environment that the program heeds. -/
structure Environment where
  /-- The configuration file, `QUICC_CONFIG`. -/
  config : Option String := none
  logging : Logging.Variables := {}
  deriving DecidableEq, Repr

namespace Program

/-- The configuration file: the first argument, or else that of the environment. -/
def configPath? (arguments : List String) (environment : Environment) : Option String :=
  arguments.head?.or environment.config

/-- The call that starts logging. With a switch in the environment only the environment counts;
without one, its log file takes the place of the configured one. -/
def startLogging (config : Config) (settings : Logging.Variables) : Logging.Call :=
  match settings.switch with
  | some _ => .startFrom settings
  | none => .start config.logging.enabled (settings.logFile.or config.logging.logFile)

/-- The session that a configuration describes. -/
def session (config : Config) : Session where
  simulator :=
    { maxInputWidth := config.simulator.maxInputWidth
      seed := config.simulator.seed.map UInt64.ofNat
      checkMemory := config.simulator.checkMemory }
  banner := config.display.banner

/-- The notes of a configuration. -/
def configurationNotes (config : Config) (started : String) (logFile : Option String) :
    List Journal.Event :=
  let seed := match config.simulator.seed with
    | some seed => toString seed
    | none => "random"
  ["=== QuICC Configuration ===", "Start Time: " ++ started,
      s!"Simulator Max Input Width: {config.simulator.maxInputWidth} bits",
      "Simulator Seed: " ++ seed, s!"Memory Check: {config.simulator.checkMemory}"].map note ++
    (logFile.map fun path => note ("Log File: " ++ path)).toList ++
    [note "==========================="]
where
  note : String → Journal.Event := Journal.note "DRIVER"

/-! ## Fatal errors -/

/-- The lines of a text, the first one after `first` and the others after `next`. -/
def indented (first next text : String) : List String :=
  match text.splitOn "\n" with
  | [] => []
  | line :: lines => (first ++ line) :: lines.map (next ++ ·)

/-- The report of a fatal error: what failed, and its causes from the outermost in. -/
def fatal (failed : String) (causes : List String) : List String :=
  let listed := match causes with
    | [cause] => indented "    " "    " cause
    | causes => causes.zipIdx.flatMap fun cause =>
      indented s!"    {cause.2}: " "       " cause.1
  ["Error: " ++ failed, "", "Caused by:"] ++ listed

/-- The causes of a configuration error. -/
def configCauses (error : ConfigError) : List String :=
  match error with
  | .unreadable inner => [error.message, inner.message]
  | .undecodable inner excerpt => [error.message, inner.report excerpt]
  | _ => [error.message]

def configFailure (path : Option String) (error : ConfigError) : List String :=
  let named := match path with
    | some path => "Some(" ++ Quoted.text path ++ ")"
    | none => "None"
  fatal ("Failed to load configuration from " ++ named) (configCauses error)

/-- The causes of a failed session. -/
def sessionCauses (error : SessionError) : List String :=
  match error with
  | .console inner => [error.message, inner.message]
  | .backend inner => [error.message, inner.message]
  | .catalog inner => [inner.message]

def sessionFailure (error : SessionError) : List String :=
  fatal "QuICC console terminated" (sessionCauses error)

/-! ## Running -/

/-- What is left after the program. -/
structure Exit where
  code : Nat
  output : ByteArray := ByteArray.empty
  /-- The lines on the error output; none are told after an abort. -/
  errors : Option (List String)
  directory : Directory

/-- The configuration of the program. -/
def configuration (path : Option String) (directory : Directory) (script : Bytes) :
    Except ConfigError Config :=
  match path with
  | none => .ok {}
  | some path => Config.ofFile (directory.read ⟨script.toArray⟩ path)

/-- What the configuration leaves of the script: nothing, if it was read from there. -/
def remaining (path : Option String) (directory : Directory) (script : Bytes) : Bytes :=
  match path.map directory.place with
  | some (.ok (.device .input)) => []
  | _ => script

/-- The whole program. -/
def run (arguments : List String) (environment : Environment) (directory : Directory)
    (script : Bytes) (started : String) (conditions : Nat → Conditions) : Exit :=
  let path := configPath? arguments environment
  match configuration path directory script with
  | .error error => { code := 1, errors := some (configFailure path error), directory }
  | .ok config =>
    match Logging.History.step directory.refusal {} (startLogging config environment.logging) with
    | none => { code := 101, errors := none, directory }
    | some history =>
      let history := history.write
        (configurationNotes config started history.logger.logFile?)
      let (result, desk) := (session config).onScript conditions history.logger.enabled
        (remaining path directory script) none
      let history := history.write desk.journal.toList
      let (code, report) := match result with
        | .ok _ => (0, [])
        | .error error => (1, sessionFailure error)
      { code, output := desk.console.sink.written
        errors := some (history.errorLines directory ++ report)
        directory := history.directory directory }

end Program

end PreimageSearch
