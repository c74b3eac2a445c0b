import PreimageSearch.Bytes
import PreimageSearch.Targets
import PreimageSearch.Text.Integer

/-!
# The console

An operator's console: the lines that are still to be read and what has been written. Every question
is asked until a line answers it; it fails only if the console itself does. Reads take whole lines
and never look ahead.
-/

namespace PreimageSearch

/-- Why the console fails. -/
inductive ConsoleError where
  /-- There is no further line. -/
  | closed
  /-- The line is not valid UTF-8. -/
  | notText
  | noOptions
  /-- A position outside the options was looked up. -/
  | outOfBounds
  /-- No more output is accepted. -/
  | writeLimit
  /-- An answer within the bounds of its question was refused. -/
  | refused (error : ParameterError)
  deriving DecidableEq, Repr

/-- The wording of a failure. -/
def ConsoleError.message : ConsoleError → String
  | closed => "console closed"
  | notText => "stream did not contain valid UTF-8"
  | noOptions => "menu has no options"
  | outOfBounds => "index out of bounds"
  | writeLimit => "write limit reached"
  | refused error => error.message

/-- What has been written, and how many more bytes are accepted; without a limit, any number. -/
structure Sink where
  written : ByteArray := ByteArray.empty
  room : Option Nat := none

namespace Sink

/-- Writes a text; beyond the room left only its first bytes are written, and the write fails. -/
def write (sink : Sink) (text : String) : Bool × Sink :=
  let bytes := text.toUTF8
  match sink.room with
  | none => (true, { sink with written := sink.written ++ bytes })
  | some room =>
    if bytes.size ≤ room then (true, ⟨sink.written ++ bytes, some (room - bytes.size)⟩)
    else (false, ⟨sink.written ++ bytes.extract 0 room, some 0⟩)

end Sink

/-- A line as it is read: its bytes, the line end included if it has one. -/
abbrev Line := Bytes

namespace Line

/-- The lines of a script. Each one ends with a line feed, except perhaps the last. -/
def split : Bytes → List Line
  | [] => []
  | byte :: rest =>
    if byte = 0x0A then [byte] :: split rest
    else
      match split rest with
      | [] => [[byte]]
      | line :: lines => (byte :: line) :: lines

/-- The text of a line, if it is valid UTF-8. -/
def text? (line : Line) : Option String :=
  String.fromUTF8? ⟨line.toArray⟩

end Line

structure Console where
  lines : List Line
  sink : Sink

/-- A console with a script before it. -/
def Console.ofScript (script : Bytes) (room : Option Nat) : Console :=
  ⟨Line.split script, { room := room }⟩

/-- A part of a conversation on the console, which may fail; what was read and written stays so. -/
abbrev Dialogue (ε α : Type) := ExceptT ε (StateM Console) α

namespace Dialogue

/-- Writes a text. -/
def say (text : String) : Dialogue ConsoleError Unit := fun console =>
  match console.sink.write text with
  | (true, sink) => (.ok (), { console with sink })
  | (false, sink) => (.error .writeLimit, { console with sink })

/-- What is written before a line is taken. -/
def question (prompt : String) : String :=
  "\n" ++ prompt ++ "\n> "

/-- Writes the prompt and takes a line, until one is accepted. -/
def askLines {α : Type} (prompt : String) (accept : String → Option α) :
    List Line → Sink → Except ConsoleError α × Console
  | [], sink =>
    match sink.write (question prompt) with
    | (false, sink) => (.error .writeLimit, ⟨[], sink⟩)
    | (true, sink) => (.error .closed, ⟨[], sink⟩)
  | line :: rest, sink =>
    match sink.write (question prompt) with
    | (false, sink) => (.error .writeLimit, ⟨line :: rest, sink⟩)
    | (true, sink) =>
      match line.text? with
      | none => (.error .notText, ⟨rest, sink⟩)
      | some text =>
        match accept text with
        | some answer => (.ok answer, ⟨rest, sink⟩)
        | none =>
          match sink.write "Invalid input\n" with
          | (false, sink) => (.error .writeLimit, ⟨rest, sink⟩)
          | (true, sink) => askLines prompt accept rest sink

/-- The answer of the first line that is accepted. -/
def ask {α : Type} (prompt : String) (accept : String → Option α) :
    Dialogue ConsoleError α := fun console =>
  askLines prompt accept console.lines console.sink

/-- An integer in a range. -/
def askInteger (kind : IntegerKind) (prompt : String) (range : Integer.Range) :
    Dialogue ConsoleError Int :=
  ask prompt fun line => (Integer.read? kind line).filter range.contains

/-- A count from `least` to `greatest`. -/
def askCount (bits : Nat) (prompt : String) (least greatest : Nat) : Dialogue ConsoleError Nat :=
  ask prompt fun line =>
    ((Integer.read? (.unsigned bits) line).filter
      (Integer.Range.closed least greatest).contains).map Int.toNat

/-- The characters of a line before its line end. -/
def withoutLineEnd (line : String) : String :=
  String.ofList (Blank.trimRight (fun c => c == '\n' || c == '\r') line.toList)

/-- A hexadecimal number up to `greatest`. A line without digits is zero, and nothing but its line
end may surround the digits. -/
def askHex (prompt : String) (greatest : Nat) : Dialogue ConsoleError Nat :=
  ask prompt fun line => (Hex.read? (withoutLineEnd line)).filter (· ≤ greatest)

/-- The prompt of a menu: one numbered line for each option. -/
def menu (prompt : String) (labels : List String) : String :=
  prompt ++ String.join
    (labels.zipIdx.map fun option => s!"\n [{option.2 + 1}] " ++ option.1)

/-- What was looked up, if there is anything at its position. -/
def inBounds {α : Type} : Option α → Dialogue ConsoleError α
  | some a => pure a
  | none => throw .outOfBounds

/-- The option at the entered position, the first being 1; its label is echoed. -/
def choose {α : Type} (prompt : String) (label : α → String) (options : List α) :
    Dialogue ConsoleError α :=
  if options.isEmpty then throw .noOptions
  else do
    let selection ← askCount 64 (menu prompt (options.map label)) 1 options.length
    let option ← inBounds options[selection - 1]?
    say (label option ++ "\n")
    return option

end Dialogue

end PreimageSearch
