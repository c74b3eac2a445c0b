import PreimageSearch.Text.Integer
import PreimageSearch.Toml.Text

/-!
# TOML numbers, dates and times

Integers of 64 bits in four bases, floating-point numbers, and the forms of dates and times, whose
ranges are checked.
-/

namespace PreimageSearch.Toml

open Reader

def isDigit (c : Char) : Bool :=
  '0' ≤ c && c ≤ '9'

/-- Digits of a base, where single underscores may stand between two. -/
def digits (accepts : Char → Bool) : Reader (List Char) := do
  let first ← char accepts
  let rest ← many (char accepts <|> (do exactly '_'; char accepts))
  return first :: rest

/-- The value of digits in a base up to sixteen. -/
def digitsValue (base : Nat) (digits : List Char) : Nat :=
  digits.foldl (fun n c => base * n + (Hex.digitValue? c).getD 0) 0

/-- Whether there is a minus sign; a plus sign is read and means nothing. -/
def sign : Reader Bool := do
  match ← maybe (char fun c => c == '+' || c == '-') with
  | some c => return c == '-'
  | none => return false

/-- The digits of a decimal integer: zero, or digits that do not begin with zero. -/
def wholeDigits : Reader (List Char) :=
  (do
    let first ← char fun c => '1' ≤ c && c ≤ '9'
    let rest ← many (char isDigit <|> (do exactly '_'; char isDigit))
    return first :: rest) <|>
  piece (char isDigit)

/-- An integer that 64 bits hold with its sign. -/
def inRange (n : Int) : Reader Int :=
  if IntegerKind.signed64.contains n then return n else failure

/-- An integer in another base, after the letter of that base. -/
def based (letter : Char) (base : Nat) (accepts : Char → Bool) : Reader Int := do
  word ['0', letter]
  let ds ← digits accepts
  inRange (digitsValue base ds)

def integer : Reader Int :=
  based 'x' 16 (fun c => (Hex.digitValue? c).isSome) <|>
  based 'o' 8 (fun c => '0' ≤ c && c ≤ '7') <|>
  based 'b' 2 (fun c => c == '0' || c == '1') <|>
  (do
    let negative ← sign
    let ds ← wholeDigits
    let n := (digitsValue 10 ds : Int)
    inRange (if negative then -n else n))

/-! ## Floating-point numbers -/

/-- The number nearest to `mantissa * 10 ^ exponent`. Far outside the range of floating-point
numbers it is infinite or zero, and the power is never built. -/
def nearest (mantissa : Nat) (exponent : Int) : Float :=
  let magnitude := exponent + (Nat.toDigits 10 mantissa).length
  if mantissa = 0 ∨ magnitude < -400 then 0.0
  else if magnitude > 400 then 1.0 / 0.0
  else if exponent < 0 then Float.ofScientific mantissa true exponent.natAbs
  else Float.ofScientific mantissa false exponent.natAbs

/-- The exponent of a number. -/
def exponent : Reader Int := do
  let _ ← char fun c => c == 'e' || c == 'E'
  let negative ← sign
  let ds ← digits isDigit
  let n := (digitsValue 10 ds : Int)
  return if negative then -n else n

/-- The digits behind the point. -/
def fraction : Reader (List Char) := do
  exactly '.'
  digits isDigit

/-- A number with a fraction or an exponent. One too large to be held is refused, unless it is
negative. -/
def decimalFloat : Reader Float := do
  let negative ← sign
  let whole ← wholeDigits
  let (behind, power) ←
    (do return (([] : List Char), ← exponent)) <|>
    (do return (← fraction, (← maybe exponent).getD 0))
  let x := nearest (digitsValue 10 (whole ++ behind)) (power - behind.length)
  if negative then return -x
  else if x.isFinite then return x
  else failure

def specialFloat : Reader Float := do
  let negative ← sign
  let x ← (do word ['i', 'n', 'f']; return (1.0 / 0.0 : Float)) <|>
    (do word ['n', 'a', 'n']; return (0.0 / 0.0 : Float))
  return if negative then -x else x

/-! ## Dates and times -/

/-- A number of exactly so many digits within bounds. -/
def field (count least greatest : Nat) : Reader Nat := fun input =>
  let number := input.rest.take count
  let n := digitsValue 10 number
  if number.length = count ∧ number.all isDigit ∧ least ≤ n ∧ n ≤ greatest then
    some (n, input.drop count)
  else none

/-- The number of days of a month. -/
def monthLength (year month : Nat) : Nat :=
  if month = 2 then
    if year % 4 = 0 ∧ (year % 100 ≠ 0 ∨ year % 400 = 0) then 29 else 28
  else if month = 4 ∨ month = 6 ∨ month = 9 ∨ month = 11 then 30
  else 31

def date : Reader Unit := do
  let year ← field 4 0 9999
  exactly '-'
  let month ← field 2 1 12
  exactly '-'
  let _ ← field 2 1 (monthLength year month)

/-- A time of day; a sixtieth second is a leap second. -/
def time : Reader Unit := do
  let _ ← field 2 0 23
  exactly ':'
  let _ ← field 2 0 59
  exactly ':'
  let _ ← field 2 0 60
  let _ ← maybe (do exactly '.'; let _ ← char isDigit; run isDigit)

/-- The distance from universal time. -/
def offset : Reader Unit :=
  (do let _ ← char fun c => c == 'Z' || c == 'z') <|>
  (do
    let _ ← char fun c => c == '+' || c == '-'
    let _ ← field 2 0 23
    exactly ':'
    let _ ← field 2 0 59)

/-- A date, a time, or both with an optional offset. -/
def datetime : Reader Unit :=
  (do
    date
    let _ ← maybe do
      let _ ← char fun c => c == 'T' || c == 't' || c == ' '
      time
      maybe offset) <|>
  time

end PreimageSearch.Toml
