/-!
# Widths in bits

Powers of two and how many bits a number takes. The number of bits is found without building a power
of two, since a width may be as large as `2 ^ 32 - 1`.
-/

namespace PreimageSearch

/-- Two to the power `n`, which is the number of values of `n` bits. -/
def twoPow (n : Nat) : Nat :=
  Nat.pow 2 n

/-- The number of bits of `n`; zero has none. -/
def bitLength (n : Nat) : Nat :=
  if n = 0 then 0 else n.log2 + 1

/-- The largest number of `width` bits. -/
def maxOfWidth (width : Nat) : Nat :=
  twoPow width - 1

theorem twoPow_pos (n : Nat) : 0 < twoPow n :=
  Nat.two_pow_pos n

/-- A number has at most `w` bits exactly if it is one of the values of `w` bits. -/
theorem bitLength_le_iff {n w : Nat} : bitLength n ≤ w ↔ n < twoPow w := by
  unfold bitLength
  split
  · next h => subst h; exact ⟨fun _ => twoPow_pos w, fun _ => Nat.zero_le w⟩
  · next h => exact Nat.succ_le_iff.trans (Nat.log2_lt h)

theorem le_maxOfWidth_iff {n w : Nat} : n ≤ maxOfWidth w ↔ n < twoPow w := by
  have := twoPow_pos w
  unfold maxOfWidth
  omega

end PreimageSearch
