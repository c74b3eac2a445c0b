import PreimageSearch.Text.Unprinted

/-!
# Quoted text

A text between double quotes in which quotes, backslashes and characters that are not shown are
escaped.
-/

namespace PreimageSearch.Quoted

/-- A character by its number in lower-case hexadecimal. -/
def byNumber (c : Char) : String :=
  "\\u\x7b" ++ String.ofList (Nat.toDigits 16 c.toNat) ++ "\x7d"

/-- A character as it stands between the quotes. -/
def escape (c : Char) : String :=
  match c with
  | '\x00' => "\\0"
  | '\t' => "\\t"
  | '\r' => "\\r"
  | '\n' => "\\n"
  | '\\' => "\\\\"
  | '"' => "\\\""
  | c => if Unprinted.isUnprinted c then byNumber c else String.singleton c

def text (s : String) : String :=
  "\"" ++ String.join (s.toList.map escape) ++ "\""

end PreimageSearch.Quoted
