import PreimageSearch.Bits

/-!
# Faults

Machine arithmetic of a fixed width, with the reasons for which an evaluation is abandoned instead
of wrapping around or inventing a value.
-/

namespace PreimageSearch

/-- Why an evaluation ends without a value. -/
inductive Fault where
  /-- A result does not fit the machine word it is held in. -/
  | overflow
  | divisionByZero
  /-- A position outside the data was asked for. -/
  | outOfBounds
  deriving DecidableEq, Repr

namespace Word

/-- The number of values of a 64-bit word. -/
def limit64 : Nat := twoPow 64

/-- The number of values of a 128-bit word. -/
def limit128 : Nat := twoPow 128

/-- The number `n` held in a word of `limit` values. -/
def fit (limit n : Nat) : Except Fault Nat :=
  if n < limit then .ok n else .error .overflow

/-- The least number of parts of size `d` that cover `n`. -/
def ceilDiv (n d : Nat) : Except Fault Nat :=
  if d = 0 then .error .divisionByZero else .ok ((n + (d - 1)) / d)

theorem fit_of_lt {limit n : Nat} (h : n < limit) : fit limit n = .ok n := by
  simp [fit, h]

theorem ceilDiv_of_pos {n d : Nat} (h : 0 < d) : ceilDiv n d = .ok ((n + (d - 1)) / d) := by
  simp [ceilDiv, Nat.ne_of_gt h]

/-- Rounding up gives enough parts. -/
theorem le_parts_mul {d : Nat} (h : 0 < d) (n : Nat) : n ≤ (n + (d - 1)) / d * d := by
  have parts := Nat.div_add_mod (n + (d - 1)) d
  have rest := Nat.mod_lt (n + (d - 1)) h
  rw [Nat.mul_comm] at parts
  omega

/-- Rounding up gives no part too many. -/
theorem parts_mul_lt {d : Nat} (h : 0 < d) (n : Nat) : (n + (d - 1)) / d * d < n + d := by
  have parts := Nat.div_mul_le_self (n + (d - 1)) d
  omega

end Word

end PreimageSearch
