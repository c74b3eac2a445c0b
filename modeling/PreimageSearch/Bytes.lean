import PreimageSearch.Fault

/-!
# Byte strings

Byte strings as big-endian numbers, and the message that stands for an input of a search.
-/

namespace PreimageSearch

/-- A byte string, the first byte first. -/
abbrev Bytes := List UInt8

namespace Bytes

/-- The big-endian value of a byte string. -/
def value (bytes : Bytes) : Nat :=
  bytes.foldl (fun n byte => 256 * n + byte.toNat) 0

/-- The lowest `length` bytes of `n`, the most significant first. -/
def ofValue : (length n : Nat) → Bytes
  | 0, _ => []
  | length + 1, n => ofValue length (n / 256) ++ [UInt8.ofNat n]

/-- The pieces of `size` bytes of a byte string; the last one holds what is left. -/
def pieces (size : Nat) (bytes : Bytes) : List Bytes :=
  if _ : 0 < size ∧ bytes ≠ [] then bytes.take size :: pieces size (bytes.drop size)
  else []
termination_by bytes.length
decreasing_by
  next h =>
    have := List.length_pos_iff.2 h.2
    simp only [List.length_drop]
    omega

@[simp]
theorem length_ofValue (length n : Nat) : (ofValue length n).length = length := by
  induction length generalizing n with
  | zero => rfl
  | succ length ih => simp [ofValue, ih]

theorem foldl_lt (bytes : Bytes) (n : Nat) :
    bytes.foldl (fun n byte => 256 * n + byte.toNat) n < (n + 1) * twoPow (8 * bytes.length) := by
  induction bytes generalizing n with
  | nil => simp [twoPow]
  | cons byte rest ih =>
    have small := byte.toNat_lt
    have wider : twoPow (8 * (byte :: rest).length) = 256 * twoPow (8 * rest.length) := by
      unfold twoPow
      rw [List.length_cons, Nat.mul_succ, Nat.add_comm]
      exact Nat.pow_add 2 8 _
    rw [List.foldl_cons, wider, ← Nat.mul_assoc]
    refine Nat.lt_of_lt_of_le (ih _) (Nat.mul_le_mul_right _ ?_)
    omega

/-- A byte string is a number of eight bits for each byte. -/
theorem value_lt (bytes : Bytes) : value bytes < twoPow (8 * bytes.length) := by
  have bounded := foldl_lt bytes 0
  rwa [Nat.zero_add, Nat.one_mul] at bounded

end Bytes

/-- The number of bytes that hold an input of `width` bits. -/
def encodedLength (width : Nat) : Nat :=
  (width + 7) / 8

/-- The message for `input`, a 64-bit word: of its eight bytes, the most significant first, as many
of the last ones as hold `width` bits. -/
def encodeInput (input width : Nat) : Except Fault Bytes :=
  let length := encodedLength width
  if length ≤ 8 then .ok ((Bytes.ofValue 8 input).drop (8 - length))
  else .error .outOfBounds

end PreimageSearch
