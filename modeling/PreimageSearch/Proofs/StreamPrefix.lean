import PreimageSearch.Oracle.Hashed
import PreimageSearch.Proofs.Encoding

/-!
# One output stream for all widths

The bytes that are squeezed for a short output are the first ones of those for a long output
(`Keccak.squeeze_take`), also across the blocks of the sponge. So the outputs of one message agree
in all widths: cutting bytes off the stream keeps the high end of the number, and cutting the first
byte down to a width keeps the low end.
-/

namespace PreimageSearch

namespace Keccak

theorem squeezeBlocks_isPrefix (rate count more : Nat) (s : State) :
    squeezeBlocks rate count s <+: squeezeBlocks rate (count + more) s := by
  induction count generalizing s with
  | zero => exact List.nil_prefix
  | succ count ih =>
    rw [Nat.succ_add, squeezeBlocks, squeezeBlocks]
    exact (List.prefix_append_right_inj _).2 (ih (permute s))

/-- A short output is the beginning of a long one. -/
theorem squeeze_take {rate short long : Nat} (positive : 0 < rate) (h : rate ≤ 200)
    (shorter : short ≤ long) (domain : UInt8) (message : Bytes) :
    (squeeze rate domain long message).take short = squeeze rate domain short message := by
  have fewer : (short + (rate - 1)) / rate ≤ (long + (rate - 1)) / rate :=
    Nat.div_le_div_right (by omega)
  obtain ⟨rest, blocks⟩ := squeezeBlocks_isPrefix rate ((short + (rate - 1)) / rate)
    ((long + (rate - 1)) / rate - (short + (rate - 1)) / rate) (absorbed rate domain message)
  rw [Nat.add_sub_cancel' fewer] at blocks
  rw [squeeze, squeeze, List.take_take, Nat.min_eq_left shorter, ← blocks]
  -- The blocks of the short output already hold all of its bytes.
  apply List.take_append_of_le_length
  rw [length_squeezeBlocks h]
  exact Word.le_parts_mul positive short

end Keccak

namespace OutputStream

theorem rate_bounds (stream : OutputStream) : 0 < stream.rate ∧ stream.rate ≤ 200 := by
  cases stream <;> decide

theorem length_take (stream : OutputStream) (length : Nat) (message : Bytes) :
    (stream.take length message).length = length :=
  Keccak.length_squeeze stream.rate_bounds.1 stream.rate_bounds.2 _ _ _

theorem take_take (stream : OutputStream) {short long : Nat} (shorter : short ≤ long)
    (message : Bytes) : (stream.take long message).take short = stream.take short message :=
  Keccak.squeeze_take stream.rate_bounds.1 stream.rate_bounds.2 shorter _ _

end OutputStream

/-! ## Numbers of bytes -/

namespace Bytes

theorem value_lt_pow (bytes : Bytes) : value bytes < 256 ^ bytes.length :=
  calc value bytes
    _ < 2 ^ (8 * bytes.length) := value_lt bytes
    _ = 256 ^ bytes.length := Nat.pow_mul 2 8 bytes.length

/-- The first bytes are the high end of the number. -/
theorem value_take (bytes : Bytes) (count : Nat) :
    value (bytes.take count) = value bytes / 256 ^ (bytes.length - count) := by
  have joined := value_append (bytes.take count) (bytes.drop count)
  have low := value_lt_pow (bytes.drop count)
  rw [List.take_append_drop, List.length_drop] at joined
  rw [List.length_drop] at low
  rw [joined, Nat.mul_add_div (Nat.pow_pos (by decide)), Nat.div_eq_of_lt low, Nat.add_zero]

end Bytes

/-! ## Outputs of all widths -/

namespace OutputStream

/-- The output of a message in a width. -/
def digest (stream : OutputStream) (message : Bytes) (width : Nat) : Nat :=
  Bytes.value (stream.take (encodedLength width) message) % 2 ^ width

variable (stream : OutputStream) (message : Bytes)

/-- In a width of whole bytes nothing is cut off. -/
theorem digest_bytes (count : Nat) :
    stream.digest message (8 * count) = Bytes.value (stream.take count message) := by
  have whole : encodedLength (8 * count) = count := by
    unfold encodedLength
    omega
  have fits := Bytes.value_lt (stream.take count message)
  rw [length_take] at fits
  rw [digest, whole]
  exact Nat.mod_eq_of_lt fits

theorem digest_eq_mod (width : Nat) :
    stream.digest message width = stream.digest message (8 * (width ⌈/⌉ 8)) % 2 ^ width := by
  rw [digest_bytes]
  rfl

theorem digest_eq_div {short long : Nat} (shorter : short ≤ long) :
    stream.digest message (8 * short) =
      stream.digest message (8 * long) / 2 ^ (8 * (long - short)) := by
  rw [digest_bytes, digest_bytes, ← stream.take_take shorter, Bytes.value_take, length_take,
    Nat.pow_mul]

end OutputStream

/-- The outputs of a stream for one message are consistent. In every width there is one, which does
not depend on the name of the oracle or on the rate that it is priced by; it is a number of that
width, and the low end of the output in the next width of whole bytes. In widths of whole bytes a
short output is the high end of a long one. -/
theorem Oracle.ofStream_consistent (stream : OutputStream) (message : Bytes) :
    ∃ digest : Nat → Nat,
      (∀ name rate width, (ofStream name stream rate width).evaluate message =
        .ok (digest width)) ∧
      (∀ width, digest width < 2 ^ width ∧
        digest width = digest (8 * (width ⌈/⌉ 8)) % 2 ^ width) ∧
      ∀ short long, short ≤ long →
        digest (8 * short) = digest (8 * long) / 2 ^ (8 * (long - short)) := by
  refine ⟨stream.digest message, fun name rate width => rfl, fun width => ⟨?_, ?_⟩, ?_⟩
  · exact Nat.mod_lt _ (Nat.two_pow_pos width)
  · exact stream.digest_eq_mod message width
  · intro short long shorter
    exact stream.digest_eq_div message shorter

/-- Outputs of SHAKE128 beyond the end of its first block: the block is the high end of a number
that is two bytes longer, and a width of twelve bits more leaves four of these bits out. -/
theorem Oracle.ofStream_consistent_second_block :
    ∃ block longer odd, (ofStream "SHAKE128" .shake128 168 1344).evaluate [0x61] = .ok block ∧
      (ofStream "SHAKE128" .shake128 168 1360).evaluate [0x61] = .ok longer ∧
      (ofStream "SHAKE128" .shake128 1 1356).evaluate [0x61] = .ok odd ∧
      block = longer / 2 ^ 16 ∧ odd = longer % 2 ^ 1356 := by
  obtain ⟨digest, evaluated, within, high⟩ := ofStream_consistent .shake128 [0x61]
  exact ⟨digest 1344, digest 1360, digest 1356, evaluated _ _ _, evaluated _ _ _, evaluated _ _ _,
    high 168 170 (by decide), (within 1356).2⟩

end PreimageSearch
