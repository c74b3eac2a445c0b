import PreimageSearch.Directory
import PreimageSearch.Limits
import PreimageSearch.Text.Quoted
import PreimageSearch.Text.Shortest
import PreimageSearch.Toml.Document
import PreimageSearch.Toml.Excerpt

/-!
# The configuration

Settings of the simulator, of logging and of the display, each with a default. A configuration text
is a TOML document with one table for each section; a section may also be an array of its values in
the order of its fields. Unknown keys and values of the wrong type are reported in the order of the
document, before any value out of range.
-/

namespace PreimageSearch

structure SimulatorSettings where
  /-- The widest search space that is simulated, in bits. -/
  maxInputWidth : Nat := Limits.defaultSimulatedWidth
  /-- The seed of the random words; random where there is none. -/
  seed : Option Nat := none
  /-- Whether runs that exceed the available memory are refused. -/
  checkMemory : Bool := true
  deriving DecidableEq, Repr

structure LoggingSettings where
  enabled : Bool := false
  /-- The file that takes the log lines in place of the error output. -/
  logFile : Option String := none
  deriving DecidableEq, Repr

structure DisplaySettings where
  /-- Whether the operator is greeted. -/
  banner : Bool := true
  /-- Whether a terminal shows that a run is under way. -/
  progress : Bool := true
  deriving DecidableEq, Repr

structure Config where
  simulator : SimulatorSettings := {}
  logging : LoggingSettings := {}
  display : DisplaySettings := {}
  deriving DecidableEq, Repr

/-- Why a document is no configuration. -/
inductive DecodeError where
  | unknownField (name : String) (known : List String)
  | invalidType (found expected : String)
  | invalidValue (found expected : String)
  deriving DecidableEq, Repr

namespace DecodeError

/-- A name between grave accents. -/
def accented (name : String) : String :=
  "`" ++ name ++ "`"

/-- The choice between names. -/
def choice : List String → String
  | [first, second] => accented first ++ " or " ++ accented second
  | names => "one of " ++ ", ".intercalate (names.map accented)

/-- The wording of an error. -/
def message : DecodeError → String
  | unknownField name known => "unknown field " ++ accented name ++ ", expected " ++ choice known
  | invalidType found expected => "invalid type: " ++ found ++ ", expected " ++ expected
  | invalidValue found expected => "invalid value: " ++ found ++ ", expected " ++ expected

end DecodeError

/-- Why there is no configuration. -/
inductive ConfigError where
  | unreadable (error : FileError)
  /-- The text is no TOML document. -/
  | malformed
  /-- A TOML document that is no configuration, and where. -/
  | undecodable (error : DecodeError) (excerpt : Toml.Excerpt)
  | widthOutOfRange (given : Nat)
  | emptyLogFile
  deriving DecidableEq, Repr

/-- The report of an error in a document: the excerpt and the wording, each line ended. -/
def DecodeError.report (error : DecodeError) (excerpt : Toml.Excerpt) : String :=
  String.join ((excerpt.lines ++ [error.message]).map (· ++ "\n"))

/-- The wording of an error. -/
def ConfigError.message : ConfigError → String
  | unreadable error => "Failed to read config file: " ++ error.message
  | malformed => "Failed to parse config file: invalid document"
  | undecodable error excerpt => "Failed to parse config file: " ++ error.report excerpt
  | widthOutOfRange given =>
    "Invalid configuration: simulator.max_input_width must be between " ++
      s!"{Limits.minInputWidth} and {Limits.maxInputWidth}, got {given}"
  | emptyLogFile => "Invalid configuration: logging.log_file must not be empty"

namespace Config

open Toml

/-! ## Fields -/

/-- What a value is, for error messages. -/
def describe : Value → String
  | .string text => "string " ++ Quoted.text text
  | .integer n => "integer " ++ DecodeError.accented (toString n)
  | .float x => "floating point " ++ DecodeError.accented (Shortest.text x)
  | .boolean b => "boolean " ++ DecodeError.accented (toString b)
  | .datetime => "map"
  | .array _ => "sequence"
  | .table _ _ => "map"
  | .tables _ => "sequence"

/-- An integer from zero to `2 ^ bits - 1`. -/
def unsigned (bits : Nat) (v : Value) : Except DecodeError Nat :=
  match v with
  | .integer n =>
    if (IntegerKind.unsigned bits).contains n then .ok n.toNat
    else .error (.invalidValue (describe v) s!"u{bits}")
  | _ => .error (.invalidType (describe v) s!"u{bits}")

def boolean (v : Value) : Except DecodeError Bool :=
  match v with
  | .boolean b => .ok b
  | _ => .error (.invalidType (describe v) "a boolean")

def path (v : Value) : Except DecodeError String :=
  match v with
  | .string text => .ok text
  | _ => .error (.invalidType (describe v) "path string")

/-! ## Sections -/

/-- What a value stands for, or why it does not and where that value is. -/
def read {α : Type} (meaning : Value → Except DecodeError α) (v : Located Value) :
    Except (Located DecodeError) α :=
  (meaning v.value).mapError fun error => ⟨error, v.span⟩

/-- The error of a key that is no field. -/
def unknown {α : Type} (key : Located String) (known : List String) :
    Except (Located DecodeError) α :=
  .error ⟨.unknownField key.value known, key.span⟩

/-- The name under which a date or time shows its parts. -/
def datetimeKey : String := "$__toml_private_datetime"

/-- The entries of a section: those of a table, or the elements of an array under the names of the
fields. -/
def sectionEntries (name : String) (fields : List String) (v : Located Value) :
    Except (Located DecodeError) Entries :=
  let keys : List (Located String) := fields.map fun field => ⟨field, v.span⟩
  match v.value with
  | .table _ entries => .ok entries
  | .array items => .ok (keys.zip items)
  | .tables items => .ok (keys.zip (items.map fun item => ⟨.table .header item.value, item.span⟩))
  | .datetime => .ok [(⟨datetimeKey, v.span⟩, v)]
  | other => .error ⟨.invalidType (describe other) ("struct " ++ name), v.span⟩

def simulatorFields : List String := ["max_input_width", "seed", "check_memory"]

def setSimulator (settings : SimulatorSettings) (entry : Located String × Located Value) :
    Except (Located DecodeError) SimulatorSettings :=
  match entry.1.value with
  | "max_input_width" => do return { settings with maxInputWidth := ← read (unsigned 32) entry.2 }
  | "seed" => do return { settings with seed := some (← read (unsigned 64) entry.2) }
  | "check_memory" => do return { settings with checkMemory := ← read boolean entry.2 }
  | _ => unknown entry.1 simulatorFields

def loggingFields : List String := ["enabled", "log_file"]

def setLogging (settings : LoggingSettings) (entry : Located String × Located Value) :
    Except (Located DecodeError) LoggingSettings :=
  match entry.1.value with
  | "enabled" => do return { settings with enabled := ← read boolean entry.2 }
  | "log_file" => do return { settings with logFile := some (← read path entry.2) }
  | _ => unknown entry.1 loggingFields

def displayFields : List String := ["banner", "progress"]

def setDisplay (settings : DisplaySettings) (entry : Located String × Located Value) :
    Except (Located DecodeError) DisplaySettings :=
  match entry.1.value with
  | "banner" => do return { settings with banner := ← read boolean entry.2 }
  | "progress" => do return { settings with progress := ← read boolean entry.2 }
  | _ => unknown entry.1 displayFields

def sections : List String := ["simulator", "logging", "display"]

/-- Sets one section of a configuration. -/
def setSection (config : Config) (entry : Located String × Located Value) :
    Except (Located DecodeError) Config :=
  match entry.1.value with
  | "simulator" => do
    let entries ← sectionEntries "SimulatorConfig" simulatorFields entry.2
    return { config with simulator := ← entries.foldlM setSimulator {} }
  | "logging" => do
    let entries ← sectionEntries "LoggingConfig" loggingFields entry.2
    return { config with logging := ← entries.foldlM setLogging {} }
  | "display" => do
    let entries ← sectionEntries "DisplayConfig" displayFields entry.2
    return { config with display := ← entries.foldlM setDisplay {} }
  | _ => unknown entry.1 sections

/-- The configuration of the entries of a document, without regard to ranges. -/
def decode (entries : Entries) : Except (Located DecodeError) Config :=
  entries.foldlM setSection {}

/-! ## Whole configurations -/

/-- A configuration whose values are in range. -/
def validate (config : Config) : Except ConfigError Config :=
  let width := config.simulator.maxInputWidth
  if width < Limits.minInputWidth ∨ Limits.maxInputWidth < width then
    .error (.widthOutOfRange width)
  else if config.logging.logFile = some "" then .error .emptyLogFile
  else .ok config

/-- The configuration that a text describes. -/
def ofText (text : String) : Except ConfigError Config :=
  match Document.read? text with
  | none => .error .malformed
  | some entries =>
    match decode entries with
    | .error error => .error (.undecodable error.value (Excerpt.ofSpan text error.span))
    | .ok config => config.validate

/-- The configuration in a file, given what reading the file gave. -/
def ofFile (contents : Except FileError ByteArray) : Except ConfigError Config :=
  match contents.bind FileError.asText with
  | .ok text => ofText text
  | .error error => .error (.unreadable error)

end Config

end PreimageSearch
