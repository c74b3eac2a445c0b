/-!
# Hexadecimal numbers

Numbers are written with upper-case digits and no leading zeros, and read with digits of either
case, any number of leading zeros, and the empty text as zero.
-/

namespace PreimageSearch.Hex

/-- The value of a hexadecimal digit of either case. -/
def digitValue? (c : Char) : Option Nat :=
  if '0' ≤ c ∧ c ≤ '9' then some (c.toNat - '0'.toNat)
  else if 'a' ≤ c ∧ c ≤ 'f' then some (c.toNat - 'a'.toNat + 10)
  else if 'A' ≤ c ∧ c ≤ 'F' then some (c.toNat - 'A'.toNat + 10)
  else none

/-- The upper-case digit of value `d`, for `d < 16`. -/
def digit (d : Nat) : Char :=
  if d < 10 then Char.ofNat ('0'.toNat + d) else Char.ofNat ('A'.toNat + (d - 10))

/-- The number whose digits, after those already read as `n`, are `cs`. -/
def readFrom (n : Nat) : List Char → Option Nat
  | [] => some n
  | c :: cs => (digitValue? c).bind fun d => readFrom (16 * n + d) cs

/-- The number a text of hexadecimal digits stands for. -/
def read? (text : String) : Option Nat :=
  readFrom 0 text.toList

/-- The digits of `n`, followed by `tail`. -/
def digitsBefore (n : Nat) (tail : List Char) : List Char :=
  if n < 16 then digit n :: tail else digitsBefore (n / 16) (digit (n % 16) :: tail)

/-- The digits of `n`, the most significant first. -/
def digits (n : Nat) : List Char :=
  digitsBefore n []

/-- The upper-case text of `n`. -/
def text (n : Nat) : String :=
  String.ofList (digits n)

end PreimageSearch.Hex
