/-!
# Journal events

What a run notes about itself: notes of a part of the program, and details with named values.
-/

namespace PreimageSearch

namespace Journal

inductive Level where
  | info
  | debug
  deriving DecidableEq, Repr

/-- One event of the journal. -/
structure Event where
  level : Level
  message : String
  /-- Named values, in the order in which they are written. -/
  fields : List (String × String)
  deriving DecidableEq, Repr

/-- A note by the part of the program called `source`. -/
def note (source text : String) : Event :=
  ⟨.info, "  [" ++ source ++ "]   " ++ text, []⟩

/-- A detail: numbers under their names. -/
def detail (message : String) (fields : List (String × Nat)) : Event :=
  ⟨.debug, message, fields.map fun field => (field.1, toString field.2)⟩

/-- The level, right-aligned in five columns. -/
def Level.text : Level → String
  | info => " INFO"
  | debug => "DEBUG"

/-- A character of a message as it stands in a line: those that steer a terminal are shown by their
numbers, but line ends and tabs stay. -/
def shown (c : Char) : String :=
  if c = '\x07' ∨ c = '\x08' ∨ c = '\x0c' ∨ c = '\x1b' ∨ c = '\x7f' then
    "\\x" ++ String.ofList [Nat.digitChar (c.toNat / 16), Nat.digitChar (c.toNat % 16)]
  else if '\u0080' ≤ c ∧ c ≤ '\u009f' then
    "\\u\x7b" ++ String.ofList (Nat.toDigits 16 c.toNat) ++ "\x7d"
  else String.singleton c

/-- The line of an event, without the time at which it is written. -/
def Event.line (event : Event) : String :=
  event.level.text ++ " " ++ String.join (event.message.toList.map shown) ++
    String.join (event.fields.map fun field => " " ++ field.1 ++ "=" ++ field.2)

end Journal

end PreimageSearch
