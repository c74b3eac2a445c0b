import PreimageSearch.Program
import Std.Time.Format
import Std.Time.Zoned

/-!
# The command line

Reads the operator's lines one by one, prints what the session says as soon as it says it, measures
how long runs take and writes the log. All decisions are made by `Program` and `Session`.
-/

namespace PreimageSearch.CommandLine

/-! ## The surroundings -/

/-- The local time of day. -/
def localTime : IO String := do
  let now ← Std.Time.PlainDateTime.now
  return now.format "uuuu-MM-dd HH:mm:ss"

/-- The universal time that starts a log line. -/
def logTime : IO String := do
  let now ← Std.Time.Timestamp.now
  let universal := Std.Time.PlainDateTime.ofWallTime (Std.Time.WallTime.ofTimestamp now .zero)
  return universal.format "uuuu-MM-dd'T'HH:mm:ss.SSSSSS'Z'"

/-- The free memory in bytes, or zero where the system does not tell. -/
def availableMemory : IO Nat := do
  try
    let table ← IO.FS.lines "/proc/meminfo"
    let row := table.findSome? fun line =>
      Option.map (·.toString) (line.dropPrefix? "MemAvailable:")
    return ((row.getD "").toList.filter Char.isDigit |> String.ofList).toNat?.getD 0 * 1024
  catch _ => return 0

/-- A random seed. -/
def randomSeed : IO UInt64 := do
  let bytes ← IO.getRandomBytes 8
  return UInt64.ofNat (Bytes.value bytes.toList)

/-- The failure of a file operation. -/
def fileError : IO.Error → FileError
  | .noFileOrDirectory _ _ _ => .notFound
  | .inappropriateType _ code text =>
    if code = 21 then .isDirectory else if code = 20 then .notDirectory else .other text
  | .invalidArgument _ code text =>
    if code = 36 then .nameTooLong else if code = 22 then .invalidArgument else .other text
  | .hardwareFault 5 _ => .inputOutput
  | .permissionDenied _ 13 _ => .notPermitted
  | .noSuchThing _ 6 _ => .noDevice
  | .resourceBusy 26 _ => .programRuns
  | .resourceExhausted _ 28 _ => .noSpace
  | error => .other (toString error)

/-- The result of an operation on the file at a path. -/
def attempt {α : Type} (path : String) (action : IO α) : IO (Except FileError α) := do
  match Path.parse path with
  | .error error => return .error error
  | .ok _ =>
    try return .ok (← action)
    catch error => return .error (fileError error)

/-- The next line of a stream, empty at its end. -/
partial def readLine (stream : IO.FS.Stream) (before : Line) : IO Line := do
  let bytes ← stream.read 1
  match bytes.toList with
  | [] => return before.reverse
  | byte :: _ =>
    if byte = 0x0A then return (byte :: before).reverse else readLine stream (byte :: before)

/-! ## The log -/

structure Log where
  logger : Logging.Logger
  stream : IO.FS.Stream

/-- Writes the events that the logger accepts, and says so where that fails. -/
def Log.write (log : Log) (events : List Journal.Event) : IO Unit := do
  for event in events do
    if log.logger.accepts event.level then
      try
        log.stream.putStr ((← logTime) ++ " " ++ event.line ++ "\n")
        log.stream.flush
      catch error =>
        for line in Logging.writeFailure (fileError error) do
          (← IO.getStderr).putStrLn line

/-- Starts logging; `none` if the switch in the environment is not understood. -/
def startLog (call : Logging.Call) : IO (Option Log) := do
  let opened ← match call.wanted? with
    | none => pure (.ok none)
    | some path => attempt path (some <$> IO.FS.Handle.mk path .append)
  let refusal : String → Option FileError := fun _ =>
    match opened with
    | .ok _ => none
    | .error error => some error
  match Logging.History.step refusal {} call with
  | none => return none
  | some history =>
    let errors ← IO.getStderr
    for error in history.failure do
      errors.putStrLn (Logging.openFailure error)
    let stream := match opened with
      | .ok (some handle) => IO.FS.Stream.ofHandle handle
      | _ => errors
    return some ⟨history.logger, stream⟩

/-! ## The session -/

structure Terminal where
  input : IO.FS.Stream
  output : IO.FS.Stream
  log : Log

/-- Carries out a part of a session that reads nothing. -/
def Terminal.act {α : Type} (terminal : Terminal) (work : Work α) :
    IO (Except SessionError α) := do
  let (result, desk) :=
    work { console := ⟨[], {}⟩, recording := terminal.log.logger.enabled }
  terminal.output.write desk.console.sink.written
  terminal.output.flush
  terminal.log.write desk.journal.toList
  return result

/-- Holds a conversation. It is begun again with each further line that it needs; what it says does
not depend on lines to come, so only what is new has to be printed. -/
partial def Terminal.converse {α : Type} (terminal : Terminal) (dialogue : Dialogue SessionError α)
    (lines : List Line) (printed : Nat) : IO (Except SessionError α) := do
  let (result, console) := dialogue ⟨lines, {}⟩
  let written := console.sink.written
  terminal.output.write (written.extract printed written.size)
  terminal.output.flush
  match result with
  | .error (.console .closed) =>
    let line ← readLine terminal.input []
    if line.isEmpty then return result
    else terminal.converse dialogue (lines ++ [line]) written.size
  | _ => return result

/-- Runs a search and reports on it. -/
def Terminal.run (terminal : Terminal) (session : Session) (mode : Mode) (search : Search) :
    IO (Except SessionError Unit) := do
  let conditions : Conditions :=
    ⟨← localTime, .ofNanoseconds 0, ← availableMemory, Random.word (← randomSeed)⟩
  match ← terminal.act (Session.announce conditions mode search) with
  | .error error => return .error error
  | .ok _ =>
    let start ← IO.monoNanosNow
    let verdict ← IO.lazyPure fun _ => session.carryOut conditions mode search
    let conditions :=
      { conditions with elapsed := .ofNanoseconds ((← IO.monoNanosNow) - start) }
    terminal.act (Session.conclude conditions search verdict)

/-- Serves the main menu until the session ends. -/
partial def Terminal.serve (terminal : Terminal) (session : Session) :
    IO (Except SessionError Unit) := do
  match ← terminal.converse (Interview.request session.catalog) [] 0 with
  | .error (.console .closed) =>
    terminal.act (do Session.note "Console closed"; Session.leave)
  | .error error => return .error error
  | .ok .quit => terminal.act Session.leave
  | .ok .help =>
    match ← terminal.act (Session.say (Guide.help ++ "\n")) with
    | .ok _ => terminal.serve session
    | .error error => return .error error
  | .ok (.run mode search) =>
    match ← terminal.run session mode search with
    | .ok _ => terminal.serve session
    | .error error => return .error error

/-- The configuration of a file, or the defaults without one. -/
def configuration : Option String → IO (Except ConfigError Config)
  | none => return .ok {}
  | some path => return Config.ofFile (← attempt path (IO.FS.readBinFile path))

/-- Prints the report of a fatal error. -/
def failed (report : List String) : IO UInt32 := do
  let errors ← IO.getStderr
  for line in report do
    errors.putStrLn line
  return 1

/-- The program, with the code that it exits with. -/
def run (arguments : List String) : IO UInt32 := do
  let environment : Environment :=
    ⟨← IO.getEnv "QUICC_CONFIG", ⟨← IO.getEnv "QUICC_LOGGING", ← IO.getEnv "QUICC_LOG_FILE"⟩⟩
  let path := Program.configPath? arguments environment
  match ← configuration path with
  | .error error => failed (Program.configFailure path error)
  | .ok config =>
    match ← startLog (Program.startLogging config environment.logging) with
    | none =>
      (← IO.getStderr).putStr Logging.badSwitch
      return 101
    | some log =>
      log.write (Program.configurationNotes config (← localTime) log.logger.logFile?)
      let terminal : Terminal := ⟨← IO.getStdin, ← IO.getStdout, log⟩
      let session := Program.session config
      match ← terminal.act session.greet with
      | .error error => failed (Program.sessionFailure error)
      | .ok _ =>
        match ← terminal.serve session with
        | .ok _ => return 0
        | .error error => failed (Program.sessionFailure error)

end PreimageSearch.CommandLine

def main (arguments : List String) : IO UInt32 :=
  PreimageSearch.CommandLine.run arguments
