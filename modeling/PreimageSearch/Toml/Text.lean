import PreimageSearch.Text.Hex
import PreimageSearch.Toml.Reader

/-!
# TOML strings and keys

Basic strings with escapes, literal strings without, both also over several lines, and the keys that
are written bare or as one-line strings.
-/

namespace PreimageSearch.Toml

open Reader

/-! ## Blanks, line ends and comments -/

def isSpace (c : Char) : Bool :=
  c == ' ' || c == '\t'

/-- A character that may stand in a comment or a literal string: a tab or anything but a control
character. -/
def isPlain (c : Char) : Bool :=
  c == '\t' || (' ' ≤ c && c ≠ '\x7f')

/-- The line feed that a line end stands for, with a carriage return before it or not. -/
def newline : Reader Char := do
  let _ ← maybe (exactly '\r')
  char (· == '\n')

def spaces : Reader Unit := do
  let _ ← run isSpace

def comment : Reader Unit := do
  exactly '#'
  let _ ← run isPlain

/-- The rest of a line after a value or a header: blanks, perhaps a comment, and the line end. -/
def lineRest : Reader Unit := do
  spaces
  let _ ← maybe comment
  (do let _ ← newline) <|> finish

/-- Blanks, comments and line ends. -/
def filler : Reader Unit := do
  let _ ← many ((do let _ ← char isSpace) <|> (do let _ ← newline) <|> comment)

/-! ## Strings -/

/-- The character of as many hexadecimal digits. -/
def codePoint (digits : Nat) : Reader Char := fun input =>
  let number := input.rest.take digits
  if number.length = digits then do
    let n ← Hex.readFrom 0 number
    if n.isValidChar then some (Char.ofNat n, input.drop digits) else none
  else none

/-- An escape sequence. -/
def escape : Reader Char := do
  exactly '\\'
  match ← char fun _ => true with
  | 'b' => return '\x08'
  | 't' => return '\t'
  | 'n' => return '\n'
  | 'f' => return '\x0c'
  | 'r' => return '\r'
  | '"' => return '"'
  | '\\' => return '\\'
  | 'u' => codePoint 4
  | 'U' => codePoint 8
  | _ => failure

/-- A character that stands for itself in a basic string. -/
def isBasic (c : Char) : Bool :=
  isPlain c && c ≠ '"' && c ≠ '\\'

def basicString : Reader String := do
  exactly '"'
  let cs ← many (char isBasic <|> escape)
  exactly '"'
  return String.ofList cs

/-- A character that stands for itself in a literal string. -/
def isLiteral (c : Char) : Bool :=
  isPlain c && c ≠ '\''

def literalString : Reader String := do
  exactly '\''
  let cs ← run isLiteral
  exactly '\''
  return String.ofList cs

/-- One or two quotes that do not close a string of several lines. -/
def innerQuotes (quote : Char) : Reader (List Char) := do
  let quotes ← run (· == quote)
  if quotes.length ≤ 2 && !quotes.isEmpty then return quotes else failure

/-- The three quotes that close a string of several lines; one or two more before them belong to
it. -/
def closingQuotes (quote : Char) : Reader (List Char) := fun input =>
  let count := min 5 (input.rest.takeWhile (· == quote)).length
  if 3 ≤ count then some (List.replicate (count - 3) quote, input.drop count) else none

/-- A backslash at the end of a line, with the line end and all blanks and line ends after it. -/
def lineContinuation : Reader Unit := do
  exactly '\\'
  spaces
  let _ ← newline
  let _ ← many ((do let _ ← char isSpace) <|> (do let _ ← newline))

/-- A string of several lines between three quotes each, made of the given pieces. A line end right
after the opening quotes is left out. -/
def longString (quote : Char) (piece : Reader (List Char)) : Reader String := do
  word [quote, quote, quote]
  let _ ← maybe newline
  let pieces ← many (piece <|> innerQuotes quote)
  let last ← closingQuotes quote
  return String.ofList (pieces.flatten ++ last)

/-- The value of a reader as a piece of a string. -/
def piece (reader : Reader Char) : Reader (List Char) := do
  return [← reader]

def longBasicString : Reader String :=
  longString '"' (piece (char isBasic) <|> piece newline
    <|> (do lineContinuation; return []) <|> piece escape)

def longLiteralString : Reader String :=
  longString '\'' (piece (char isLiteral) <|> piece newline)

def string : Reader String :=
  longBasicString <|> basicString <|> longLiteralString <|> literalString

/-! ## Keys -/

/-- A character of a bare key. -/
def isBare (c : Char) : Bool :=
  c.isAlphanum || c == '-' || c == '_'

def bareKey : Reader String := do
  let first ← char isBare
  let rest ← run isBare
  return String.ofList (first :: rest)

/-- The number of parts that a key must stay below, and the number of arrays and inline tables that
may not stand in one another. -/
def depthLimit : Nat := 80

/-- A key: one part or more, divided by points, with blanks around each. -/
def key : Reader (List (Located String)) := do
  let parts ← separated (exactly '.') do
    spaces
    let part ← located (basicString <|> literalString <|> bareKey)
    spaces
    return part
  if parts.length < depthLimit then return parts else failure

end PreimageSearch.Toml
