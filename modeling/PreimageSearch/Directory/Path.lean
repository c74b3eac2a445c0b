/-!
# Paths

Why a file cannot be used, and the parts of a path as they are walked one after another.
-/

namespace PreimageSearch

/-- Why a file cannot be used. -/
inductive FileError where
  | notFound
  | isDirectory
  | notDirectory
  | notPermitted
  | nameTooLong
  /-- A path holds the character zero. -/
  | zeroInName
  /-- A device is there in name only. -/
  | noDevice
  /-- A running program is not to be changed. -/
  | programRuns
  | noSpace
  /-- A file takes nothing but its own form. -/
  | invalidArgument
  | inputOutput
  /-- The contents do not come to an end. -/
  | outOfMemory
  /-- The file is not valid UTF-8. -/
  | notText
  /-- Anything else, in the system's words. -/
  | other (text : String)
  deriving DecidableEq, Repr

/-- The wording of a failure. -/
def FileError.message : FileError → String
  | notFound => "No such file or directory (os error 2)"
  | isDirectory => "Is a directory (os error 21)"
  | notDirectory => "Not a directory (os error 20)"
  | notPermitted => "Permission denied (os error 13)"
  | nameTooLong => "File name too long (os error 36)"
  | zeroInName => "file name contained an unexpected NUL byte"
  | noDevice => "No such device or address (os error 6)"
  | programRuns => "Text file busy (os error 26)"
  | noSpace => "No space left on device (os error 28)"
  | invalidArgument => "Invalid argument (os error 22)"
  | inputOutput => "Input/output error (os error 5)"
  | outOfMemory => "out of memory"
  | notText => "stream did not contain valid UTF-8"
  | other text => text

/-- The text of a file's contents. -/
def FileError.asText (contents : ByteArray) : Except FileError String :=
  match String.fromUTF8? contents with
  | some text => .ok text
  | none => .error .notText

/-- The parts of a path, which are names or the two that stand for directories. -/
structure Path where
  /-- Whether the walk begins at the root. -/
  absolute : Bool
  parts : List String
  /-- Whether a slash behind the last part insists on a directory. -/
  slash : Bool
  deriving DecidableEq, Repr

namespace Path

/-- The most bytes of a name. -/
def maxName : Nat := 255

/-- The most bytes of a path. -/
def maxLength : Nat := 4095

/-- The path of a text. Several slashes count as one. -/
def parse (text : String) : Except FileError Path :=
  if text.toList.contains '\x00' then .error .zeroInName
  else if text.isEmpty then .error .notFound
  else if text.utf8ByteSize > maxLength then .error .nameTooLong
  else
    let pieces := text.splitOn "/"
    .ok ⟨pieces.head? = some "", pieces.filter (· ≠ ""), pieces.getLast? = some ""⟩

/-- Whether the last part is a name. -/
def endsInName (path : Path) : Bool :=
  match path.parts.getLast? with
  | some last => last ≠ "." && last ≠ ".."
  | none => false

end Path

end PreimageSearch
