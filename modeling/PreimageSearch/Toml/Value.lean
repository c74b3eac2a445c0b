import PreimageSearch.Toml.Reader

/-!
# TOML values and tables

The values of a TOML document, with enough of how a table came about to tell whether a later key or
header may still add to it. Tables keep their entries in the order in which they were defined, and
keys and values keep the stretch of text that they stand for.
-/

namespace PreimageSearch.Toml

/-- How a table came about. -/
inductive Origin where
  /-- Written between braces; complete. -/
  | inline
  /-- Opened by its own header. -/
  | header
  /-- Implied by the header of a table inside it. -/
  | implied
  /-- Made by a dotted key. -/
  | dotted
  deriving DecidableEq, Repr

/-- A TOML value. Dates and times are recognised, and nothing here looks inside them. -/
inductive Value where
  | string (text : String)
  | integer (n : Int)
  | float (x : Float)
  | boolean (b : Bool)
  | datetime
  | array (items : List (Located Value))
  | table (origin : Origin) (entries : List (Located String × Located Value))
  /-- Tables under a repeated header, in order. -/
  | tables (items : List (Located (List (Located String × Located Value))))

/-- The entries of a table, in the order of their definition. -/
abbrev Entries := List (Located String × Located Value)

/-- A definition: the path of dotted keys, the key itself and its value. -/
structure Definition where
  path : List (Located String)
  key : Located String
  value : Located Value

/-- A header with the definitions below it: the path of the table that holds the table meant, the
key of that one, and whether the header may be repeated. -/
structure Part where
  path : List (Located String)
  key : Located String
  repeated : Bool
  definitions : List Definition
  /-- From the header to the last value. -/
  span : Span

namespace Entries

/-- The value under a key. -/
def find? (key : String) (entries : Entries) : Option (Located Value) :=
  (List.find? (fun entry => entry.1.value == key) entries).map Prod.snd

/-- The entries without a key. -/
def erase (key : String) (entries : Entries) : Entries :=
  entries.filter fun entry => entry.1.value != key

/-- The entries with another value under a key that is there. -/
def replace (key : String) (value : Located Value) (entries : Entries) : Entries :=
  entries.map fun entry => if entry.1.value == key then (entry.1, value) else entry

/-- The entries with one more at the end. -/
def append (key : Located String) (value : Located Value) (entries : Entries) : Entries :=
  entries ++ [(key, value)]

/-- Defines a key under a path of dotted keys. A key is defined once. A path leads through tables
that no header or brace has completed, and the table it ends in is made of dotted keys. -/
def define (key : Located String) (value : Located Value) :
    (path : List (Located String)) → Entries → Option Entries
  | [], entries =>
    match find? key.value entries with
    | none => some (append key value entries)
    | some _ => none
  | name :: path, entries =>
    match find? name.value entries with
    | none => do
      let inner ← define key value path []
      return append name ⟨.table .dotted inner, name.span⟩ entries
    | some ⟨.table .dotted inner, span⟩ => do
      let inner ← define key value path inner
      return replace name.value ⟨.table .dotted inner, span⟩ entries
    | some ⟨.table .implied inner, span⟩ =>
      if path.isEmpty then none
      else do
        let inner ← define key value path inner
        return replace name.value ⟨.table .implied inner, span⟩ entries
    | some ⟨.tables items, span⟩ =>
      if path.isEmpty then none
      else do
        let last ← items.getLast?
        let inner ← define key value path last.value
        return replace name.value ⟨.tables (items.dropLast ++ [⟨inner, last.span⟩]), span⟩ entries
    | some _ => none

/-- Defines keys one after another. -/
def defineAll (definitions : List Definition) (entries : Entries) : Option Entries :=
  definitions.foldlM (fun entries d => define d.key d.value d.path entries) entries

/-- Changes the table that the path of a header leads to. Tables on the way are implied if they are
missing, and the last of repeated tables is meant. -/
def alter (change : Entries → Option Entries) :
    (path : List (Located String)) → Entries → Option Entries
  | [], entries => change entries
  | name :: path, entries =>
    match find? name.value entries with
    | none => do
      let inner ← alter change path []
      return append name ⟨.table .implied inner, name.span⟩ entries
    | some ⟨.table .inline _, _⟩ => none
    | some ⟨.table origin inner, span⟩ => do
      let inner ← alter change path inner
      return replace name.value ⟨.table origin inner, span⟩ entries
    | some ⟨.tables items, span⟩ => do
      let last ← items.getLast?
      let inner ← alter change path last.value
      return replace name.value ⟨.tables (items.dropLast ++ [⟨inner, last.span⟩]), span⟩ entries
    | some _ => none

/-- Opens the table of a header and defines the keys below it. Only a table that was implied so far
may be there already, and it moves behind the others. -/
def openTable (part : Part) (entries : Entries) : Option Entries :=
  match find? part.key.value entries with
  | none => do
    let inner ← defineAll part.definitions []
    return append part.key ⟨.table .header inner, part.span⟩ entries
  | some ⟨.table .implied inner, _⟩ => do
    let inner ← defineAll part.definitions inner
    return append part.key ⟨.table .header inner, part.span⟩ (erase part.key.value entries)
  | some _ => none

/-- Adds one more table under a repeated header; all of them together reach from the first to the
last. -/
def addTable (part : Part) (entries : Entries) : Option Entries :=
  match find? part.key.value entries with
  | none => do
    let inner ← defineAll part.definitions []
    return append part.key ⟨.tables [⟨inner, part.span⟩], part.span⟩ entries
  | some ⟨.tables items, span⟩ => do
    let inner ← defineAll part.definitions []
    return replace part.key.value
      ⟨.tables (items ++ [⟨inner, part.span⟩]), ⟨span.first, part.span.behind⟩⟩ entries
  | some _ => none

/-- Adds the table of a header. -/
def addPart (entries : Entries) (part : Part) : Option Entries :=
  alter (if part.repeated then addTable part else openTable part) part.path entries

end Entries

end PreimageSearch.Toml
