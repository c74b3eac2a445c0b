import PreimageSearch.Directory
import PreimageSearch.Journal

/-!
# Logging

Logging is switched on and off by any number of starts. The first start that switches it on chooses
the destination for good: the log file it names if that opens, the error output otherwise.
-/

namespace PreimageSearch

namespace Logging

/-- Where log lines go. -/
inductive Destination where
  | errorOutput
  | file (path : String)
  deriving DecidableEq, Repr

/-- The place to which lines go. A path may lead to the error output too. -/
def Destination.outlet? (directory : Directory) : Destination → Option Place
  | errorOutput => some (.device .errors)
  | file path => (directory.opens path).toOption

/-- Whether logging is on, and where the lines go once that is decided. -/
structure Logger where
  enabled : Bool := false
  destination : Option Destination := none
  deriving DecidableEq, Repr

namespace Logger

/-- The log file, if lines go to one. -/
def logFile? (logger : Logger) : Option String :=
  match logger.destination with
  | some (.file path) => some path
  | _ => none

/-- Whether an event is written: notes while logging is on, details once there is a destination. -/
def accepts (logger : Logger) : Journal.Level → Bool
  | .info => logger.enabled
  | .debug => logger.destination.isSome

/-- The events that are written, each with its destination; without one they are lost. -/
def deliver (logger : Logger) (events : List Journal.Event) :
    List (Destination × Journal.Event) :=
  match logger.destination with
  | none => []
  | some destination =>
    (events.filter fun event => logger.accepts event.level).map fun event => (destination, event)

end Logger

/-- The destination for a log file that may be asked for, and why that file does not open. -/
def choose (refusal : String → Option FileError) : Option String → Destination × Option FileError
  | none => (.errorOutput, none)
  | some path =>
    match refusal path with
    | none => (.file path, none)
    | some error => (.errorOutput, some error)

/-- Switches logging on or off; `refusal` says which files do not open. -/
def start (refusal : String → Option FileError) (enabled : Bool) (file : Option String)
    (logger : Logger) : Logger × Option FileError :=
  if enabled then
    match logger.destination with
    | some destination => (⟨true, some destination⟩, none)
    | none =>
      let (destination, error) := choose refusal file
      (⟨true, some destination⟩, error)
  else ({ logger with enabled := false }, none)

/-! ## Settings of the environment -/

/-- The variables of the environment that logging heeds. A value that is not text is as good as
none. -/
structure Variables where
  /-- The switch, `QUICC_LOGGING`. -/
  switch : Option String := none
  /-- The log file, `QUICC_LOG_FILE`. -/
  logFile : Option String := none
  deriving DecidableEq, Repr

/-- What the switch says; nothing but the two truth values is understood. -/
def Variables.enabled? (settings : Variables) : Option Bool :=
  match settings.switch with
  | none => some false
  | some "true" => some true
  | some "false" => some false
  | some _ => none

/-- What is said of a switch that is not understood. -/
def badSwitch : String :=
  "\nError: QUICC_LOGGING environment variable must be 'true' or 'false'\n\n" ++
    "To run the program, use one of:\n" ++
    "  QUICC_LOGGING=true cargo run\n  QUICC_LOGGING=false cargo run\n"

/-- What is said of a log file that does not open. -/
def openFailure (error : FileError) : String :=
  "Failed to open log file, logging to stderr: " ++ error.message

/-- What is said of a line that cannot be written. -/
def writeFailure (error : FileError) : List String :=
  ["[tracing-subscriber] Unable to write an event to the Writer for this Subscriber! Error: " ++
    error.message, ""]

/-! ## Histories -/

/-- A call on the logging of a program. -/
inductive Call where
  | start (enabled : Bool) (file : Option String)
  /-- A start with the settings of the environment. -/
  | startFrom (settings : Variables)
  | log (source text : String)
  deriving DecidableEq, Repr

/-- The log file that a call asks a fresh logger to open. -/
def Call.wanted? : Call → Option String
  | .start true file => file
  | .startFrom settings =>
    if settings.enabled? = some true then settings.logFile else none
  | _ => none

/-- The logger, the log lines written with their destinations, and the failure to open the log file,
which is written to the error output. -/
structure History where
  logger : Logger := {}
  emitted : List (Destination × Journal.Event) := []
  failure : Option FileError := none
  deriving DecidableEq, Repr

namespace History

/-- Starts logging. -/
def start (refusal : String → Option FileError) (enabled : Bool) (file : Option String)
    (history : History) : History :=
  let (logger, error) := Logging.start refusal enabled file history.logger
  { history with logger, failure := history.failure.or error }

/-- Writes the events that the logger accepts. -/
def write (events : List Journal.Event) (history : History) : History :=
  { history with emitted := history.emitted ++ history.logger.deliver events }

/-- One call. It fails if the switch of the environment is not understood. -/
def perform (refusal : String → Option FileError) : Call → OptionT (StateM History) Unit
  | .start enabled file => modify (start refusal enabled file)
  | .startFrom settings => do
    let enabled ← OptionT.mk (pure settings.enabled?)
    modify (start refusal enabled settings.logFile)
  | .log source text => modify (write [Journal.note source text])

/-- The history after a call that does not fail. -/
def step (refusal : String → Option FileError) (history : History) (call : Call) :
    Option History :=
  match (perform refusal call).run history with
  | (some _, after) => some after
  | (none, _) => none

/-- The lines on the error output: the failure to open the log file, the log lines that go there,
and the failures to write the others. -/
def errorLines (before : Directory) (history : History) : List String :=
  (history.failure.map openFailure).toList ++
    history.emitted.flatMap fun (destination, event) =>
      match destination.outlet? before with
      | some (.device .errors) => [event.line]
      | some (.device device) => (device.writeFailure.map writeFailure).getD []
      | _ => []

/-- The log lines of a destination. -/
def linesTo (destination : Destination) (history : History) : List String :=
  history.emitted.filterMap fun (goal, event) =>
    if goal = destination then some event.line else none

/-- The directory afterwards: a log file is there even if nothing was written to it. -/
def directory (before : Directory) (history : History) : Directory :=
  match history.logger.logFile? with
  | none => before
  | some path =>
    let lines := history.linesTo (.file path)
    before.appendAt path (String.join (lines.map (· ++ "\n"))).toUTF8

end History

end Logging

end PreimageSearch
