import PreimageSearch.Bits
import PreimageSearch.Text.Blank

/-!
# Entered integers

The grammar of an integer that an operator enters: white space around it is ignored, a sign may
stand in front of one or more decimal digits, and the value has to fit the machine integer wanted.
-/

namespace PreimageSearch

/-- A machine integer. Only the signed ones may be entered with a minus sign. -/
structure IntegerKind where
  signed : Bool
  least : Int
  greatest : Int
  deriving DecidableEq, Repr

namespace IntegerKind

def unsigned (bits : Nat) : IntegerKind :=
  ⟨false, 0, maxOfWidth bits⟩

def signed64 : IntegerKind :=
  ⟨true, -twoPow 63, maxOfWidth 63⟩

/-- Whether an integer can be held. -/
def contains (kind : IntegerKind) (n : Int) : Bool :=
  kind.least ≤ n && n ≤ kind.greatest

end IntegerKind

namespace Integer

def isDigit (c : Char) : Bool :=
  '0' ≤ c && c ≤ '9'

/-- The value of decimal digits. -/
def digitsValue (digits : List Char) : Nat :=
  digits.foldl (fun n c => 10 * n + (c.toNat - '0'.toNat)) 0

/-- The value of a non-empty run of digits. -/
def readDigits? (digits : List Char) : Option Nat :=
  if digits ≠ [] ∧ digits.all isDigit then some (digitsValue digits) else none

/-- The value of digits with an optional sign in front. -/
def readSigned? (minus : Bool) : List Char → Option Int
  | '+' :: digits => (readDigits? digits).map Int.ofNat
  | '-' :: digits => if minus then (readDigits? digits).map fun n => -Int.ofNat n else none
  | digits => (readDigits? digits).map Int.ofNat

/-- The integer that a line of text stands for. -/
def read? (kind : IntegerKind) (line : String) : Option Int :=
  match readSigned? kind.signed (Blank.trim line.toList) with
  | some n => if kind.contains n then some n else none
  | none => none

/-- One end of a range of integers. -/
inductive Bound where
  | unbounded
  | inclusive (end_ : Int)
  | exclusive (end_ : Int)
  deriving DecidableEq, Repr

structure Range where
  lower : Bound
  upper : Bound
  deriving DecidableEq, Repr

/-- The integers from `least` to `greatest`, both included. -/
def Range.closed (least greatest : Int) : Range :=
  ⟨.inclusive least, .inclusive greatest⟩

def Range.contains (range : Range) (n : Int) : Bool :=
  (match range.lower with
    | .unbounded => true
    | .inclusive least => decide (least ≤ n)
    | .exclusive below => decide (below < n)) &&
  (match range.upper with
    | .unbounded => true
    | .inclusive greatest => decide (n ≤ greatest)
    | .exclusive above => decide (n < above))

end Integer

end PreimageSearch
