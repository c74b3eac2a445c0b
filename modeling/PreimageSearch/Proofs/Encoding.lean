import Mathlib.Algebra.Order.Floor.Div
import Mathlib.Data.Set.Function
import Mathlib.GroupTheory.GroupAction.Ring
import PreimageSearch.Bytes
import PreimageSearch.Proofs.Positional

/-!
# Messages

The message for an input is cut out of its eight bytes as a word: it is the input in base 256, the
most significant byte first, in the fewest bytes that hold the width of the search
(`encodeInput_of_le`). Within the width nothing is lost, so the inputs of a search have messages of
one length, no two of them the same.
-/

namespace PreimageSearch

namespace Bytes

theorem value_eq_ofDigits (bytes : Bytes) :
    value bytes = Nat.ofDigits 256 (bytes.map UInt8.toNat).reverse := by
  have folded : value bytes = (bytes.map UInt8.toNat).foldl (fun n d => 256 * n + d) 0 :=
    List.foldl_map.symm
  rw [folded, Positional.foldl_eq_ofDigits, Nat.mul_zero, Nat.zero_add]

theorem value_append (bytes more : Bytes) :
    value (bytes ++ more) = 256 ^ more.length * value bytes + value more := by
  have folded (n : Nat) : more.foldl (fun n byte => 256 * n + byte.toNat) n =
      256 ^ more.length * n + Nat.ofDigits 256 (more.map UInt8.toNat).reverse := by
    rw [← List.length_map UInt8.toNat, ← Positional.foldl_eq_ofDigits, List.foldl_map]
  rw [value_eq_ofDigits more, ← folded, value, value, List.foldl_append]

/-- Bytes that are made from a number keep it up to what does not fit them. -/
theorem value_ofValue (length n : Nat) : value (ofValue length n) = n % 2 ^ (8 * length) := by
  induction length generalizing n with
  | zero => exact (Nat.mod_one n).symm
  | succ length ih =>
    have wider : 2 ^ (8 * (length + 1)) = 256 * 2 ^ (8 * length) := by
      rw [Nat.mul_succ, Nat.add_comm, Nat.pow_add]
    have last : value [UInt8.ofNat n] = n % 256 := by simp [value]
    rw [ofValue, value_append, ih, last, wider, Nat.mod_mul, Nat.add_comm, List.length_singleton,
      Nat.pow_one]

/-- Without its first bytes, a number is in the bytes that are left. -/
theorem drop_ofValue (first length n : Nat) :
    (ofValue (first + length) n).drop first = ofValue length n := by
  induction length generalizing n with
  | zero => exact List.drop_of_length_le (Nat.le_of_eq (length_ofValue first n))
  | succ length ih =>
    have early : first ≤ (ofValue (first + length) (n / 256)).length := by
      rw [length_ofValue]
      exact Nat.le_add_right first length
    rw [← Nat.add_assoc, ofValue, List.drop_append_of_le_length early, ih, ofValue]

end Bytes

/-- The number of bytes is the width divided by eight, rounded up. -/
theorem encodedLength_eq (width : Nat) : encodedLength width = width ⌈/⌉ 8 :=
  rfl

theorem le_encodedLength (width : Nat) : width ≤ 8 * encodedLength width := by
  unfold encodedLength
  omega

theorem encodedLength_le_eight_iff {width : Nat} : encodedLength width ≤ 8 ↔ width ≤ 64 := by
  unfold encodedLength
  omega

/-- What is cut out of the eight bytes of an input are the bytes that hold the width. -/
theorem encodeInput_of_le {width : Nat} (narrow : width ≤ 64) (input : Nat) :
    encodeInput input width = .ok (Bytes.ofValue (encodedLength width) input) := by
  have short : encodedLength width ≤ 8 := encodedLength_le_eight_iff.2 narrow
  have cut := Bytes.drop_ofValue (8 - encodedLength width) (encodedLength width) input
  rw [Nat.sub_add_cancel short] at cut
  rw [← cut]
  exact if_pos short

theorem encodeInput_of_lt {width : Nat} (wide : 64 < width) (input : Nat) :
    encodeInput input width = .error .outOfBounds :=
  if_neg (mt encodedLength_le_eight_iff.1 (Nat.not_le.2 wide))

/-- An input of the width is read off its message. -/
theorem value_ofValue_encodedLength {input width : Nat} (inside : input < 2 ^ width) :
    Bytes.value (Bytes.ofValue (encodedLength width) input) = input := by
  rw [Bytes.value_ofValue]
  apply Nat.mod_eq_of_lt
  calc input < 2 ^ width := inside
    _ ≤ 2 ^ (8 * encodedLength width) :=
      Nat.pow_le_pow_right (by decide) (le_encodedLength width)

/-- Messages are faithful. Up to a width of 64 bits every input has a message of as many bytes as
hold the width, and its big-endian value is the input up to what does not fit these bytes; so an
input of the width is read off its message, and two of them have different messages. Beyond 64 bits
no input has a message. -/
theorem encodeInput_faithful (width : Nat) :
    encodedLength width = width ⌈/⌉ 8 ∧
    (width ≤ 64 →
      (∀ input, ∃ message, encodeInput input width = .ok message ∧
        message.length = encodedLength width ∧
        Nat.ofDigits 256 (message.map UInt8.toNat).reverse = input % 2 ^ (8 * (width ⌈/⌉ 8)) ∧
        (input < 2 ^ width → Bytes.value message = input)) ∧
      Set.InjOn (encodeInput · width) (Set.Iio (2 ^ width))) ∧
    (64 < width → ∀ input, encodeInput input width = .error .outOfBounds) := by
  refine ⟨encodedLength_eq width, fun narrow => ⟨fun input => ?_, ?_⟩, encodeInput_of_lt⟩
  · refine ⟨_, encodeInput_of_le narrow input, Bytes.length_ofValue _ _, ?_,
      value_ofValue_encodedLength⟩
    rw [← Bytes.value_eq_ofDigits, Bytes.value_ofValue, encodedLength_eq]
  · intro input inside other inside' same
    simp only [encodeInput_of_le narrow, Except.ok.injEq] at same
    rw [← value_ofValue_encodedLength inside, same, value_ofValue_encodedLength inside']

/-- Of the inputs of ten bits, 1023 has a message of two bytes and is read off it, and 1022 has
another one. For 65 bits there is none. -/
theorem encodeInput_faithful_ten :
    (∃ message, encodeInput 1023 10 = .ok message ∧ message.length = 2 ∧
      Bytes.value message = 1023) ∧
    encodeInput 1022 10 ≠ encodeInput 1023 10 ∧
    encodeInput 1023 65 = .error .outOfBounds := by
  obtain ⟨-, narrow, -⟩ := encodeInput_faithful 10
  obtain ⟨-, -, wide⟩ := encodeInput_faithful 65
  obtain ⟨messages, distinct⟩ := narrow (by decide)
  obtain ⟨message, encodes, length, -, read⟩ := messages 1023
  refine ⟨⟨message, encodes, length, read (by decide)⟩, fun same => ?_, wide (by decide) 1023⟩
  have equal : 1022 = 1023 := distinct (by decide) (by decide) same
  omega

end PreimageSearch
