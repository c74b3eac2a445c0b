import Mathlib.Algebra.Order.Floor.Div
import Mathlib.GroupTheory.GroupAction.Ring
import Mathlib.Order.Bounds.Basic
import PreimageSearch.Catalog
import PreimageSearch.Proofs.StreamPrefix

/-!
# Compression calls

The calls that an oracle is priced by are those that its hash function makes. `Digest.counted` and
`OutputStream.counted` hash a message block by block and count the calls on the way; they give the
digests and streams of the library, and the count is the number of blocks of the padded message
and, for a stream, of the blocks squeezed after the first. `BlockFilling.Pads` says what the padding
is: the least ending of its kind that leads to whole blocks.
-/

namespace PreimageSearch

/-! ## Whole blocks -/

theorem Bytes.length_pieces {size count : Nat} (positive : 0 < size) {bytes : Bytes}
    (whole : bytes.length = count * size) : (pieces size bytes).length = count := by
  induction count generalizing bytes with
  | zero =>
    rw [Nat.zero_mul] at whole
    rw [List.eq_nil_of_length_eq_zero whole, pieces]
    simp
  | succ count ih =>
    rw [Nat.succ_mul] at whole
    have begun : bytes ≠ [] := List.length_pos_iff.1 (by omega)
    have later : (bytes.drop size).length = count * size := by
      rw [List.length_drop]
      omega
    rw [pieces, dif_pos ⟨positive, begun⟩, List.length_cons, ih later]

namespace Padding

/-- The gap is the least number that leads to whole blocks. -/
theorem isLeast_gap {block : Nat} (positive : 0 < block) (n : Nat) :
    IsLeast {k | block ∣ n + k} (gap block n) := by
  have parts := Nat.div_add_mod n block
  have rest := Nat.mod_lt n positive
  by_cases none : n % block = 0
  · rw [gap, none, Nat.sub_zero, Nat.mod_self]
    exact ⟨Nat.dvd_of_mod_eq_zero none, fun k _ => Nat.zero_le k⟩
  rw [gap, Nat.mod_eq_of_lt (by omega)]
  constructor
  · show block ∣ n + (block - n % block)
    refine ⟨n / block + 1, ?_⟩
    rw [Nat.mul_succ]
    omega
  · rintro k whole
    by_contra less
    -- Fewer bytes do not carry the remainder over the end of the block.
    have short : (n + k) % block = n % block + k := by
      rw [Nat.add_mod_eq_add_mod_right k (Nat.mod_mod n block).symm, Nat.mod_eq_of_lt (by omega)]
    rw [Nat.mod_eq_zero_of_dvd whole] at short
    omega

/-- The least number that leads to whole blocks leads to as few blocks as cover `n`. -/
theorem add_eq_of_isLeast {block : Nat} (positive : 0 < block) {n k : Nat}
    (least : IsLeast {k | block ∣ n + k} k) : n + k = (n + (block - 1)) / block * block := by
  have enough := Word.le_parts_mul positive n
  have few := Word.parts_mul_lt positive n
  generalize (n + (block - 1)) / block = parts at enough few
  obtain ⟨whole, lower⟩ := least
  have reaches : block ∣ n + (parts * block - n) := by
    rw [Nat.add_sub_cancel' enough]
    exact Nat.dvd_mul_left block parts
  have upper := lower reaches
  obtain ⟨count, whole⟩ := whole
  have covered : parts ≤ count := by
    apply Nat.lt_succ_iff.1
    apply Nat.lt_of_mul_lt_mul_right (a := block)
    rw [Nat.succ_mul, Nat.mul_comm count]
    omega
  have := Nat.mul_le_mul_left block covered
  rw [Nat.mul_comm block parts] at this
  omega

end Padding

namespace BlockFilling

/-- The fewest bytes behind a message. -/
def ending : BlockFilling → Nat
  | strengthened lengthField => 1 + lengthField
  | sponge => 1

/-- `padded` is the message in whole blocks, with the fewest bytes behind it: a byte `0x80`, zero
bytes and a length field, or in a sponge a first byte and others. -/
inductive Pads (block : Nat) (message : Bytes) : BlockFilling → Bytes → Prop
  | strengthened (zeros : Nat) (lengthField : Bytes)
    (fewest : IsLeast {n | block ∣ message.length + (1 + lengthField.length) + n} zeros) :
    Pads block message (.strengthened lengthField.length)
      (message ++ 0x80 :: (List.replicate zeros 0 ++ lengthField))
  | sponge (first : UInt8) (rest : Bytes)
    (fewest : IsLeast {n | block ∣ message.length + 1 + n} rest.length) :
    Pads block message .sponge (message ++ first :: rest)

theorem filled_eq_ok {filling : BlockFilling} {length : Nat}
    (fits : length + filling.ending < 2 ^ 64) :
    filling.filled length = .ok (length + filling.ending) := by
  cases filling with
  | strengthened lengthField =>
    show Word.fit Word.limit64 (length + 1 + lengthField) = _
    rw [Nat.add_assoc]
    exact Word.fit_of_lt fits
  | sponge => exact Word.fit_of_lt fits

/-- A padded message has as few blocks as cover the message with the least ending. -/
theorem Pads.length_eq {filling : BlockFilling} {block : Nat} (positive : 0 < block)
    {message padded : Bytes} (h : filling.Pads block message padded) :
    padded.length = (message.length + filling.ending + (block - 1)) / block * block := by
  cases h with
  | strengthened zeros lengthField fewest =>
    have whole := Padding.add_eq_of_isLeast positive fewest
    simp only [List.length_append, List.length_cons, List.length_replicate, ending]
    omega
  | sponge first rest fewest =>
    have whole := Padding.add_eq_of_isLeast positive fewest
    simp only [List.length_append, List.length_cons, ending]
    omega

theorem pads_strengthen {block size : Nat} (positive : 0 < block) {lengthField : Bytes}
    (sized : lengthField.length = size) (message : Bytes) :
    (strengthened size).Pads block message (Padding.strengthen block lengthField message) := by
  have least := Padding.isLeast_gap positive (message.length + (1 + lengthField.length))
  rw [← sized, Padding.strengthen, Nat.add_assoc]
  exact .strengthened _ lengthField least

theorem pads_sponge {rate : Nat} (positive : 0 < rate) (domain : UInt8) (message : Bytes) :
    sponge.Pads rate message (Padding.sponge rate domain message) := by
  have least := Padding.isLeast_gap positive (message.length + 1)
  rw [Padding.sponge, Padding.spongeEnding]
  split
  · next none =>
    rw [none] at least
    exact .sponge _ [] least
  · next zeros some =>
    rw [some] at least
    exact .sponge domain _ (by simpa using least)

end BlockFilling

/-! ## Counting calls -/

/-- A computation that counts its calls of a compression function or of a permutation. -/
abbrev Counting := StateM Nat

namespace Counting

variable {σ α : Type}

/-- One call and its result. -/
def call (result : α) : Counting α := do
  modify (· + 1)
  return result

/-- Compresses blocks one after another. -/
def compressAll (compress : σ → Bytes → σ) (start : σ) (blocks : List Bytes) : Counting σ :=
  blocks.foldlM (fun s block => call (compress s block)) start

theorem run_compressAll (compress : σ → Bytes → σ) (start : σ) (blocks : List Bytes) (n : Nat) :
    (compressAll compress start blocks).run n =
      (blocks.foldl compress start, n + blocks.length) := by
  induction blocks generalizing start n with
  | nil => rfl
  | cons block blocks ih =>
    show (compressAll compress (compress start block) blocks).run (n + 1) = _
    rw [ih, List.foldl_cons, List.length_cons]
    simp only [Nat.add_assoc, Nat.add_comm 1]

theorem run_bind_compressAll (compress : σ → Bytes → σ) (start : σ) (blocks : List Bytes) (n : Nat)
    (next : σ → Counting α) : (compressAll compress start blocks >>= next).run n =
      (next (blocks.foldl compress start)).run (n + blocks.length) := by
  show (next ((compressAll compress start blocks).run n).1).run
    ((compressAll compress start blocks).run n).2 = _
  rw [run_compressAll]

end Counting

namespace Keccak

open Counting

/-- Squeezes `length` bytes. Where they go on beyond a block, a permutation comes before the next
one. -/
def squeezing (rate length : Nat) (s : State) : Counting Bytes :=
  if _ : 0 < rate ∧ rate < length then do
    let next ← call (permute s)
    let rest ← squeezing rate (length - rate) next
    return output rate s ++ rest
  else return (output rate s).take length
termination_by length

/-- Absorbs a padded message, with a permutation for each block, and squeezes `length` bytes. -/
def sponging (rate length : Nat) (padded : Bytes) : Counting Bytes := do
  let s ← compressAll absorb State.zero (Bytes.pieces rate padded)
  squeezing rate length s

theorem run_squeezing {rate : Nat} (positive : 0 < rate) (h : rate ≤ 200) (length : Nat)
    (s : State) (n : Nat) : (squeezing rate length s).run n =
      ((squeezeBlocks rate ((length + (rate - 1)) / rate) s).take length,
        n + ((length + (rate - 1)) / rate - 1)) := by
  induction length using Nat.strongRecOn generalizing s n with
  | _ length ih =>
    rw [squeezing]
    split
    · next more =>
      have blocks : (length + (rate - 1)) / rate = (length - rate + (rate - 1)) / rate + 1 := by
        rw [← Nat.add_div_right _ positive]
        congr 1
        omega
      have another : 0 < (length - rate + (rate - 1)) / rate := Nat.div_pos (by omega) positive
      have first : (output rate s).take length = output rate s :=
        List.take_of_length_le (by rw [length_output h]; omega)
      show (output rate s ++ ((squeezing rate (length - rate) (permute s)).run (n + 1)).1,
        ((squeezing rate (length - rate) (permute s)).run (n + 1)).2) = _
      rw [ih (length - rate) (by omega), blocks, squeezeBlocks, List.take_append, length_output h,
        first]
      congr 1
      omega
    · next last =>
      rcases Nat.eq_zero_or_pos length with rfl | some
      · have none : (0 + (rate - 1)) / rate = 0 := Nat.div_eq_of_lt (by omega)
        rw [none]
        rfl
      · have single : (length + (rate - 1)) / rate = 1 :=
          Nat.div_eq_of_lt_le (by omega) (by omega)
        rw [single, squeezeBlocks, squeezeBlocks, List.append_nil]
        rfl

theorem run_sponging {rate : Nat} (positive : 0 < rate) (h : rate ≤ 200) (domain : UInt8)
    (length : Nat) (message : Bytes) :
    (sponging rate length (Padding.sponge rate domain message)).run 0 =
      (squeeze rate domain length message,
        (Bytes.pieces rate (Padding.sponge rate domain message)).length +
          ((length + (rate - 1)) / rate - 1)) := by
  rw [sponging, run_bind_compressAll, run_squeezing positive h, Nat.zero_add]
  rfl

end Keccak

/-! ## Digests -/

namespace Digest

open Counting Words

/-- The name by which the digest is known. -/
def name : Digest → String
  | md5 => "MD5"
  | sha1 => "SHA-1"
  | sha224 => "SHA-224"
  | sha256 => "SHA-256"
  | sha384 => "SHA-384"
  | sha512 => "SHA-512"
  | sha512t224 => "SHA-512/224"
  | sha512t256 => "SHA-512/256"
  | sha3t224 => "SHA3-224"
  | sha3t256 => "SHA3-256"
  | sha3t384 => "SHA3-384"
  | sha3t512 => "SHA3-512"

/-- The number of bytes that are compressed at a time. A sponge leaves twice the size of its digest
aside. -/
def block : Digest → Nat
  | md5 | sha1 | sha224 | sha256 => 64
  | sha384 | sha512 | sha512t224 | sha512t256 => 128
  | digest => 200 - 2 * digest.size

/-- How the digest pads its messages. -/
def filling : Digest → BlockFilling
  | md5 | sha1 | sha224 | sha256 => .strengthened 8
  | sha384 | sha512 | sha512t224 | sha512t256 => .strengthened 16
  | sha3t224 | sha3t256 | sha3t384 | sha3t512 => .sponge

/-- The message with its padding. -/
def padded (message : Bytes) : Digest → Bytes
  | md5 => Padding.strengthen 64 (Md5.lengthField message) message
  | sha1 => Padding.strengthen 64 (Sha1.lengthField message) message
  | sha224 | sha256 => Padding.strengthen 64 (Sha256.lengthField message) message
  | sha384 | sha512 | sha512t224 | sha512t256 =>
    Padding.strengthen 128 (Sha512.lengthField message) message
  | digest => Padding.sponge digest.block 0x06 message

/-- The bytes of the state to which the blocks lead. -/
def counted256 (start : Sha256.State) (blocks : List Bytes) : Counting Bytes := do
  let s ← compressAll Sha256.compress start blocks
  return [s.a, s.b, s.c, s.d, s.e, s.f, s.g, s.h].flatMap bytes32

/-- The bytes of the state to which the blocks lead. -/
def counted512 (start : Sha512.State) (blocks : List Bytes) : Counting Bytes := do
  let s ← compressAll Sha512.compress start blocks
  return [s.a, s.b, s.c, s.d, s.e, s.f, s.g, s.h].flatMap bytes64

/-- Hashes a message and counts the compressions or permutations that it takes. -/
def counted (message : Bytes) (digest : Digest) : Counting Bytes :=
  let blocks := Bytes.pieces digest.block (digest.padded message)
  match digest with
  | md5 => do
    let s ← compressAll Md5.compress .initial blocks
    return [s.a, s.b, s.c, s.d].flatMap fun word => (bytes32 word).reverse
  | sha1 => do
    let s ← compressAll Sha1.compress .initial blocks
    return [s.a, s.b, s.c, s.d, s.e].flatMap bytes32
  | sha224 => return (← counted256 .initial224 blocks).take 28
  | sha256 => counted256 .initial256 blocks
  | sha384 => return (← counted512 .initial384 blocks).take 48
  | sha512 => counted512 .initial512 blocks
  | sha512t224 => return (← counted512 .initial512t224 blocks).take 28
  | sha512t256 => return (← counted512 .initial512t256 blocks).take 32
  | digest => Keccak.sponging digest.block digest.size (digest.padded message)

theorem block_pos (digest : Digest) : 0 < digest.block := by
  cases digest <;> decide

/-- The counting digest is the digest, and it makes one call for each block. -/
theorem run_counted (message : Bytes) (digest : Digest) :
    (digest.counted message).run 0 =
      (digest.hash message, (Bytes.pieces digest.block (digest.padded message)).length) := by
  cases digest with
  -- One block is enough for the digest of a sponge, so there is nothing to permute again.
  | sha3t224 | sha3t256 | sha3t384 | sha3t512 =>
    exact Keccak.run_sponging (by decide) (by decide) 0x06 _ message
  | _ =>
    simp only [counted, counted256, counted512, bind_assoc, pure_bind, run_bind_compressAll,
      Nat.zero_add]
    rfl

theorem pads_padded (message : Bytes) (digest : Digest) :
    digest.filling.Pads digest.block message (digest.padded message) := by
  cases digest with
  | sha3t224 | sha3t256 | sha3t384 | sha3t512 =>
    exact BlockFilling.pads_sponge (by decide) 0x06 message
  | md5 => exact BlockFilling.pads_strengthen (by decide) (by simp [Md5.lengthField]) message
  | sha1 => exact BlockFilling.pads_strengthen (by decide) (by simp [Sha1.lengthField]) message
  | sha224 | sha256 =>
    exact BlockFilling.pads_strengthen (by decide) (by simp [Sha256.lengthField]) message
  | sha384 | sha512 | sha512t224 | sha512t256 =>
    exact BlockFilling.pads_strengthen (by decide) (by simp [Sha512.lengthField]) message

/-- What it means that an oracle is priced at `calls` for a message: the padded message is that many
blocks of the oracle, and making the digest that the oracle evaluates to takes that many calls. -/
structure PricedBy (digest : Digest) (oracle : Oracle) (message : Bytes) (calls : Nat) : Prop where
  pads : digest.filling.Pads oracle.blockSize message (digest.padded message)
  blocks : (digest.padded message).length = calls * oracle.blockSize
  evaluates : oracle.evaluate message = .ok (Bytes.value (digest.hash message))
  counted : (digest.counted message).run 0 = (digest.hash message, calls)

theorem pricedBy_ofDigest (name : String) (digest : Digest) (stateWidth : Nat) (message : Bytes) :
    digest.PricedBy (Oracle.ofDigest name digest digest.block stateWidth digest.filling) message
      ((message.length + digest.filling.ending + (digest.block - 1)) / digest.block) := by
  have whole := (digest.pads_padded message).length_eq digest.block_pos
  refine ⟨digest.pads_padded message, whole, rfl, ?_⟩
  rw [run_counted, Bytes.length_pieces digest.block_pos whole]

/-- The standard catalog has the block sizes and paddings of the digests. -/
theorem exists_standard (digest : Digest) :
    ∃ operation stateWidth, Catalog.standard.find? digest.name = some operation ∧
      ∀ width, operation.oracle width =
        Oracle.ofDigest digest.name digest digest.block stateWidth digest.filling := by
  cases digest <;> exact ⟨_, _, rfl, fun _ => rfl⟩

end Digest

/-! ## Streams -/

namespace OutputStream

/-- The name by which the stream is known. -/
def name : OutputStream → String
  | shake128 => "SHAKE128"
  | shake256 => "SHAKE256"

/-- The message with its padding. -/
def padded (stream : OutputStream) (message : Bytes) : Bytes :=
  Padding.sponge stream.rate 0x1F message

/-- Takes the first `length` bytes of a stream and counts the permutations that it takes. -/
def counted (length : Nat) (message : Bytes) (stream : OutputStream) : Counting Bytes :=
  Keccak.sponging stream.rate length (stream.padded message)

theorem run_counted (length : Nat) (message : Bytes) (stream : OutputStream) :
    (stream.counted length message).run 0 = (stream.take length message,
      (message.length + 1 + (stream.rate - 1)) / stream.rate +
        ((length + (stream.rate - 1)) / stream.rate - 1)) := by
  obtain ⟨positive, h⟩ := stream.rate_bounds
  have whole := (BlockFilling.pads_sponge positive 0x1F message).length_eq positive
  rw [counted, padded, Keccak.run_sponging positive h, Bytes.length_pieces positive whole]
  rfl

theorem exists_standard (stream : OutputStream) :
    ∃ operation, Catalog.standard.find? stream.name = some operation ∧
      ∀ width, operation.oracle width = Oracle.ofStream stream.name stream stream.rate width := by
  cases stream <;> exact ⟨_, rfl, fun _ => rfl⟩

/-- The calls for a stream are counted in every width of 32 bits. -/
theorem compressionCalls_eq_ok (name : String) (stream : OutputStream) {width length : Nat}
    (narrow : width < 2 ^ 32) (fits : length + 1 < 2 ^ 64) :
    (Oracle.ofStream name stream stream.rate width).compressionCalls length =
      .ok ((length + 1 + (stream.rate - 1)) / stream.rate +
        ((encodedLength width + (stream.rate - 1)) / stream.rate - 1)) := by
  rw [Oracle.compressionCalls_ofStream name stream stream.rate_bounds.1 width fits]
  apply Word.fit_of_lt
  show _ < 2 ^ 64
  unfold encodedLength
  cases stream <;> simp only [rate] <;> omega

end OutputStream

/-- The standard catalog prices its hash functions by the calls that they make. Under the name of
each digest there is an operation whose oracle counts the calls for every length that a machine can
pad: whatever the message of this length, they are the blocks of the padded message and the calls
made when it is hashed. For a stream they are the permutations that absorb the padded message and
squeeze the bytes of the width. -/
theorem Catalog.standard_counts_calls :
    (∀ digest : Digest, ∃ operation, standard.find? digest.name = some operation ∧
      ∀ width length, length + digest.filling.ending < 2 ^ 64 →
        ∃ calls, (operation.oracle width).compressionCalls length = .ok calls ∧
          ∀ message : Bytes, message.length = length →
            digest.PricedBy (operation.oracle width) message calls) ∧
    ∀ stream : OutputStream, ∃ operation, standard.find? stream.name = some operation ∧
      ∀ width length, width < 2 ^ 32 → length + 1 < 2 ^ 64 →
        ∃ calls, (operation.oracle width).compressionCalls length = .ok calls ∧
          ∀ message : Bytes, message.length = length →
            BlockFilling.sponge.Pads (operation.oracle width).blockSize message
              (stream.padded message) ∧
            (stream.counted (width ⌈/⌉ 8) message).run 0 =
              (stream.take (width ⌈/⌉ 8) message, calls) := by
  constructor
  · intro digest
    obtain ⟨operation, stateWidth, found, oracle⟩ := digest.exists_standard
    refine ⟨operation, found, fun width length fits => ?_⟩
    rw [oracle]
    refine ⟨_, Oracle.compressionCalls_ofDigest digest.name digest digest.block_pos stateWidth
      (BlockFilling.filled_eq_ok fits), ?_⟩
    rintro message rfl
    exact digest.pricedBy_ofDigest digest.name stateWidth message
  · intro stream
    obtain ⟨operation, found, oracle⟩ := stream.exists_standard
    refine ⟨operation, found, fun width length narrow fits => ?_⟩
    rw [oracle]
    refine ⟨_, stream.compressionCalls_eq_ok stream.name narrow fits, ?_⟩
    rintro message rfl
    exact ⟨BlockFilling.pads_sponge stream.rate_bounds.1 0x1F message,
      stream.run_counted (encodedLength width) message⟩

/-- One byte more than fits beside the length field takes a second block, and so does one byte more
of a stream than the rate. -/
theorem Catalog.standard_counts_calls_beyond_block :
    ((Digest.sha256.counted (List.replicate 56 0x61)).run 0).2 = 2 ∧
    ((OutputStream.shake128.counted 169 [0x61]).run 0).2 = 2 := by
  obtain ⟨digests, streams⟩ := Catalog.standard_counts_calls
  constructor
  · obtain ⟨operation, found, counts⟩ := digests .sha256
    obtain rfl := Option.some.inj found
    obtain ⟨calls, counted, priced⟩ := counts 256 56 (by decide)
    obtain rfl := Except.ok.inj counted
    exact congrArg Prod.snd (priced (List.replicate 56 0x61) rfl).counted
  · obtain ⟨operation, found, counts⟩ := streams .shake128
    obtain rfl := Option.some.inj found
    obtain ⟨calls, counted, made⟩ := counts 1352 1 (by decide) (by decide)
    obtain rfl := Except.ok.inj counted
    exact congrArg Prod.snd (made [0x61] rfl).2

end PreimageSearch
