/-!
# Readers

A reader takes some of the characters in front of it and gives a value, or refuses and takes
nothing. Repetition stops where a reader refuses or takes nothing, so it always ends. A place in a
text is told by the number of characters that are left there.
-/

namespace PreimageSearch.Toml

/-- What is still to be read of a text. -/
structure Input where
  rest : List Char
  /-- The number of characters left. -/
  left : Nat

namespace Input

def ofText (text : String) : Input :=
  let cs := text.toList
  ⟨cs, cs.length⟩

/-- The input behind its first `count` characters. -/
def drop (count : Nat) (input : Input) : Input :=
  ⟨input.rest.drop count, input.left - count⟩

end Input

/-- A stretch of a text: what is left at its first character and what is left behind it. -/
structure Span where
  first : Nat
  behind : Nat
  deriving DecidableEq, Repr

/-- A value and the stretch of text that it stands for. -/
structure Located (α : Type) where
  value : α
  span : Span

/-- Reads a value off the front of a text. -/
abbrev Reader (α : Type) := StateT Input Option α

namespace Reader

variable {α : Type}

/-- The next character, if it is in a class. -/
def char (accepts : Char → Bool) : Reader Char
  | ⟨[], _⟩ => none
  | ⟨c :: cs, left⟩ => if accepts c then some (c, ⟨cs, left - 1⟩) else none

/-- The given character. -/
def exactly (c : Char) : Reader Unit := do
  let _ ← char (· == c)

/-- The given characters. -/
def word : List Char → Reader Unit
  | [] => pure ()
  | c :: cs => do
    exactly c
    word cs

/-- The longest run of characters in a class. -/
def run (accepts : Char → Bool) : Reader (List Char) := fun input =>
  let (taken, rest) := input.rest.span accepts
  some (taken, ⟨rest, input.left - taken.length⟩)

/-- The end of the text. -/
def finish : Reader Unit := fun input =>
  if input.rest.isEmpty then some ((), input) else none

/-- What a reader gives, if it does not refuse. -/
def maybe (reader : Reader α) : Reader (Option α) := fun input =>
  match reader input with
  | some (a, rest) => some (some a, rest)
  | none => some (none, input)

/-- What a reader gives, with the stretch of text that it took. -/
def located (reader : Reader α) : Reader (Located α) := fun input =>
  match reader input with
  | some (a, rest) => some (⟨a, ⟨input.left, rest.left⟩⟩, rest)
  | none => none

/-- What a reader gives again and again, after what it gave before, the latest first. -/
def manyFrom (reader : Reader α) (given : List α) (input : Input) : List α × Input :=
  match reader input with
  | none => (given.reverse, input)
  | some (a, rest) =>
    if rest.left < input.left then manyFrom reader (a :: given) rest
    else (given.reverse, input)
termination_by input.left

/-- Repeats a reader as long as it takes something. -/
def many (reader : Reader α) : Reader (List α) := fun input =>
  some (manyFrom reader [] input)

/-- One value or more, with a separator between any two. -/
def separated (separator : Reader Unit) (reader : Reader α) : Reader (List α) := do
  let first ← reader
  let rest ← many (do separator; reader)
  return first :: rest

end Reader

end PreimageSearch.Toml
