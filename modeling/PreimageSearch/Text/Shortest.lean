import PreimageSearch.Bits

/-!
# Shortest decimals

A floating-point number is written with the fewest digits that read back as the same number, the
nearest of several such, and always positionally, with at least one digit on each side of the point.
-/

namespace PreimageSearch.Shortest

/-- Ten to the power of the size of `exponent`. -/
def tenPow (exponent : Int) : Nat :=
  Nat.pow 10 exponent.natAbs

/-- A positive real number `numerator / denominator`. -/
structure Ratio where
  numerator : Nat
  denominator : Nat

/-- Whether `n * 10 ^ exponent` is less than the number. -/
def Ratio.exceeds (x : Ratio) (n : Nat) (exponent : Int) : Bool :=
  if exponent < 0 then n * x.denominator < x.numerator * tenPow exponent
  else n * tenPow exponent * x.denominator < x.numerator

/-- Whether `n * 10 ^ exponent` is the number. -/
def Ratio.equals (x : Ratio) (n : Nat) (exponent : Int) : Bool :=
  if exponent < 0 then n * x.denominator == x.numerator * tenPow exponent
  else n * tenPow exponent * x.denominator == x.numerator

/-- The number of multiples of `10 ^ exponent` up to the number. -/
def Ratio.count (x : Ratio) (exponent : Int) : Nat :=
  if exponent < 0 then x.numerator * tenPow exponent / x.denominator
  else x.numerator / (x.denominator * tenPow exponent)

/-- The position of the leading digit: the least `k` with the number below `10 ^ k`, for numbers
above `10 ^ -400`. -/
def Ratio.magnitude (x : Ratio) : Int :=
  ((Nat.toDigits 10 (x.numerator * tenPow 400 / x.denominator)).length : Int) - 400

/-- The reals that round to a floating-point number: its value and the ends of the interval, which
belong to it if its last bit is even. -/
structure Interval where
  value : Ratio
  lower : Ratio
  upper : Ratio
  closed : Bool

/-- Whether `n * 10 ^ exponent` rounds to the number. -/
def Interval.contains (i : Interval) (n : Nat) (exponent : Int) : Bool :=
  (!i.lower.exceeds n exponent && i.upper.exceeds n exponent && !i.lower.equals n exponent) ||
    (i.closed && (i.lower.equals n exponent || i.upper.equals n exponent))

/-- The number `n * 2 ^ exponent / 4`. -/
def scaled (n : Nat) (exponent : Int) : Ratio :=
  if exponent < 2 then ⟨n, twoPow (2 - exponent).natAbs⟩ else ⟨n * twoPow (exponent - 2).natAbs, 1⟩

/-- The interval of a positive finite number, given by the bits of its exponent and fraction. -/
def interval (exponentBits fractionBits : Nat) : Interval :=
  let m := if exponentBits = 0 then fractionBits else fractionBits + twoPow 52
  let q : Int := if exponentBits = 0 then -1074 else exponentBits - 1075
  let below := if fractionBits = 0 ∧ 1 < exponentBits then 1 else 2
  ⟨scaled (4 * m) q, scaled (4 * m - below) q, scaled (4 * m + 2) q, m % 2 == 0⟩

/-- The nearest decimal of `count` digits that rounds to the number, as a multiple of a power of
ten. Of two that are equally near it is the larger. -/
def withDigits? (i : Interval) (count : Nat) : Option (Nat × Int) :=
  let exponent := i.value.magnitude - count
  let n := i.value.count exponent
  let low := i.contains n exponent
  let high := i.contains (n + 1) exponent
  -- The middle between both is an odd multiple of half the unit.
  let middle : Ratio := ⟨2 * i.value.numerator, i.value.denominator⟩
  let nearLow := !middle.exceeds (2 * n + 1) exponent && !middle.equals (2 * n + 1) exponent
  if low && (nearLow || !high) then some (n, exponent)
  else if high then some (n + 1, exponent)
  else none

/-- The shortest decimal; seventeen digits always suffice. -/
def shortest (i : Interval) : Nat × Int :=
  ((List.range' 1 17).findSome? (withDigits? i)).getD (0, 0)

/-- The decimal `n * 10 ^ exponent` in positional notation. -/
def positional (n : Nat) (exponent : Int) : String :=
  let digits := Nat.toDigits 10 n
  let places := (-exponent).toNat
  let padded := List.replicate (places + 1 - digits.length) '0' ++ digits ++
    List.replicate exponent.toNat '0'
  let whole := padded.take (padded.length - places)
  let behind := ((padded.drop (padded.length - places)).reverse.dropWhile (· == '0')).reverse
  String.ofList (whole ++ '.' :: (if behind.isEmpty then ['0'] else behind))

/-- The text of a floating-point number. -/
def text (x : Float) : String :=
  let bits := x.toBits.toNat
  let exponentBits := bits / twoPow 52 % twoPow 11
  let fractionBits := bits % twoPow 52
  let sign := if twoPow 63 ≤ bits then "-" else ""
  if exponentBits = 2047 then
    if fractionBits = 0 then sign ++ "inf" else "NaN"
  else if exponentBits = 0 ∧ fractionBits = 0 then sign ++ "0.0"
  else
    let (n, exponent) := shortest (interval exponentBits fractionBits)
    sign ++ positional n exponent

end PreimageSearch.Shortest
