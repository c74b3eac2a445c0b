import PreimageSearch.Toml.Reader

/-!
# Excerpts of a document

The line of a text in which something is wrong, with the wrong part underlined. Lines and columns
count from one, columns in characters.
-/

namespace PreimageSearch.Toml

/-- A line of a text and the part of it that is underlined. -/
structure Excerpt where
  /-- The number of lines before it. -/
  line : Nat
  /-- The number of characters before the part. -/
  column : Nat
  content : String
  /-- The length of the part in bytes; it may go on behind the line. -/
  size : Nat
  deriving DecidableEq, Repr

namespace Excerpt

/-- The excerpt of a text at a stretch of it. -/
def ofSpan (text : String) (span : Span) : Excerpt :=
  let cs := text.toList
  let start := cs.length - span.first
  let before := cs.take start
  let column := (before.reverse.takeWhile (· != '\n')).length
  { line := before.count '\n'
    column
    content := String.ofList ((cs.drop (start - column)).takeWhile (· != '\n'))
    size := (String.ofList ((cs.drop start).take (span.first - span.behind))).utf8ByteSize }

/-- The number of marks below the line: the part as far as the line goes, and one at least. -/
def marks (excerpt : Excerpt) : Nat :=
  max 1 (min excerpt.size (excerpt.content.utf8ByteSize - excerpt.column))

/-- The lines that show an excerpt. -/
def lines (excerpt : Excerpt) : List String :=
  let number := toString (excerpt.line + 1)
  let margin := String.ofList (List.replicate (number.length + 1) ' ') ++ "|"
  [s!"TOML parse error at line {number}, column {excerpt.column + 1}", margin,
    number ++ " | " ++ excerpt.content,
    margin ++ String.ofList
      (List.replicate (excerpt.column + 1) ' ' ++ List.replicate excerpt.marks '^')]

end Excerpt

end PreimageSearch.Toml
