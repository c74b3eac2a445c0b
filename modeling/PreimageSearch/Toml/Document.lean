import PreimageSearch.Toml.Number
import PreimageSearch.Toml.Value

/-!
# TOML documents

A document is a run of definitions, then tables under headers. `Document.read?` gives the entries of
the whole document, or nothing for a text that is no TOML document.
-/

namespace PreimageSearch.Toml

open Reader

/-- A value that holds no others. -/
def scalar : Reader Value :=
  (do return .string (← string)) <|>
  (do datetime; return .datetime) <|>
  (do return .float (← decimalFloat)) <|>
  (do return .float (← specialFloat)) <|>
  (do return .integer (← integer)) <|>
  (do word ['t', 'r', 'u', 'e']; return .boolean true) <|>
  (do word ['f', 'a', 'l', 's', 'e']; return .boolean false)

/-- A key and a value of the given kind, divided by an equals sign. -/
def definition (value : Reader Value) : Reader Definition := do
  let parts ← key
  exactly '='
  spaces
  let v ← located value
  match parts.getLast? with
  | some last => return ⟨parts.dropLast, last, v⟩
  | none => failure

/-- Values between brackets, over any number of lines; a comma may follow the last one. -/
def array (value : Reader Value) : Reader Value := do
  exactly '['
  let items ← maybe do
    let items ← separated (exactly ',') do
      filler
      let v ← located value
      filler
      return v
    let _ ← maybe (exactly ',')
    return items
  filler
  exactly ']'
  return .array (items.getD [])

/-- Definitions between braces, on one line; no comma follows the last one. -/
def inlineTable (value : Reader Value) : Reader Value := do
  exactly '\x7b'
  let definitions ← maybe <| separated (exactly ',') do
    let d ← definition value
    spaces
    return d
  spaces
  exactly '\x7d'
  match Entries.defineAll (definitions.getD []) [] with
  | some entries => return .table .inline entries
  | none => failure

/-- A value in which at most so many arrays and inline tables stand in one another. -/
def value : (depth : Nat) → Reader Value
  | 0 => scalar
  | depth + 1 => scalar <|> array (value depth) <|> inlineTable (value depth)

/-- The path of a table in brackets, which are doubled where the header may be repeated. -/
def brackets : Reader (List (Located String) × Bool) :=
  (do
    word ['[', '[']
    let path ← key
    word [']', ']']
    return (path, true)) <|>
  (do
    exactly '['
    let path ← key
    exactly ']'
    return (path, false))

/-- Lines without a definition or header. -/
def idle : Reader Unit := do
  let _ ← many ((do let _ ← char isSpace) <|> (do let _ ← newline) <|>
    (do comment; (do let _ ← newline) <|> finish))

/-- The definitions up to the next header. -/
def definitions : Reader (List Definition) := do
  idle
  many do
    let d ← definition (value (depthLimit - 1))
    lineRest
    idle
    return d

/-- A header and the definitions below it. -/
def part : Reader Part := do
  let ⟨(path, repeated), span⟩ ← located brackets
  lineRest
  let definitions ← definitions
  let behind := match definitions.getLast? with
    | some last => last.value.span.behind
    | none => span.behind
  match path.getLast? with
  | some last => return ⟨path.dropLast, last, repeated, definitions, ⟨span.first, behind⟩⟩
  | none => failure

/-- The definitions before any header, and the tables under headers. -/
structure Document where
  opening : List Definition
  parts : List Part

def document : Reader Document := do
  let _ ← maybe (exactly '\uFEFF')
  let opening ← definitions
  let parts ← many part
  finish
  return ⟨opening, parts⟩

namespace Document

/-- All entries of a document, if no key is defined twice. -/
def entries (document : Document) : Option Entries := do
  let opening ← Entries.defineAll document.opening []
  document.parts.foldlM Entries.addPart opening

/-- The entries of a text. -/
def read? (text : String) : Option Entries :=
  match document (Input.ofText text) with
  | some (document, _) => document.entries
  | none => none

end Document

end PreimageSearch.Toml
