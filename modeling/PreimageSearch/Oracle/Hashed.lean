import PreimageSearch.Hash.Crc
import PreimageSearch.Hash.Keccak
import PreimageSearch.Hash.Md5
import PreimageSearch.Hash.Sha1
import PreimageSearch.Hash.Sha256
import PreimageSearch.Hash.Sha512
import PreimageSearch.Bits
import PreimageSearch.Oracle

/-!
# Oracles of hash functions

The oracles of checksums, of digests of fixed size and of output streams of any width. Names, block
sizes and state widths are given to an oracle beside its hash function; they never change an
output.
-/

namespace PreimageSearch

/-- A hash function whose digest has a fixed size. -/
inductive Digest where
  | md5
  | sha1
  | sha224
  | sha256
  | sha384
  | sha512
  | sha512t224
  | sha512t256
  | sha3t224
  | sha3t256
  | sha3t384
  | sha3t512
  deriving DecidableEq, Repr

namespace Digest

/-- The number of bytes of a digest. -/
def size : Digest → Nat
  | md5 => 16
  | sha1 => 20
  | sha224 => 28
  | sha256 => 32
  | sha384 => 48
  | sha512 => 64
  | sha512t224 => 28
  | sha512t256 => 32
  | sha3t224 => 28
  | sha3t256 => 32
  | sha3t384 => 48
  | sha3t512 => 64

def hash (message : Bytes) : Digest → Bytes
  | md5 => Md5.digest message
  | sha1 => Sha1.digest message
  | sha224 => Sha256.digest224 message
  | sha256 => Sha256.digest256 message
  | sha384 => Sha512.digest384 message
  | sha512 => Sha512.digest512 message
  | sha512t224 => Sha512.digest512t224 message
  | sha512t256 => Sha512.digest512t256 message
  | sha3t224 => Keccak.digest 28 message
  | sha3t256 => Keccak.digest 32 message
  | sha3t384 => Keccak.digest 48 message
  | sha3t512 => Keccak.digest 64 message

theorem length_hash (message : Bytes) (digest : Digest) :
    (digest.hash message).length = digest.size := by
  cases digest <;> simp [hash, size, Keccak.length_digest]

end Digest

/-- A hash function whose output has any width. -/
inductive OutputStream where
  | shake128
  | shake256
  deriving DecidableEq, Repr

namespace OutputStream

/-- The number of bytes that one permutation absorbs or yields. -/
def rate : OutputStream → Nat
  | shake128 => 168
  | shake256 => 136

/-- The first `length` bytes of the stream of a message. -/
def take (length : Nat) (message : Bytes) (stream : OutputStream) : Bytes :=
  Keccak.squeeze stream.rate 0x1F length message

end OutputStream

/-- How a message is brought to whole blocks, as far as its length goes. -/
inductive BlockFilling where
  /-- One byte and a length field of the given number of bytes, at least. -/
  | strengthened (lengthField : Nat)
  /-- One byte at least. -/
  | sponge
  deriving DecidableEq, Repr

namespace BlockFilling

/-- The fewest bytes that a message of `length` bytes takes with its ending. -/
def filled (length : Nat) : BlockFilling → Except Fault Nat
  | strengthened lengthField => Word.fit Word.limit64 (length + 1 + lengthField)
  | sponge => Word.fit Word.limit64 (length + 1)

def description : BlockFilling → String
  | strengthened lengthField =>
    "MerkleDamgard \x7b length_field: " ++ toString lengthField ++ " \x7d"
  | sponge => "Sponge"

end BlockFilling

/-- The width of the state of every Keccak sponge. -/
def keccakStateWidth : Nat := 1600

namespace Oracle

/-- A checksum works byte by byte, and its state is the check itself. -/
def ofChecksum (checksum : Checksum) : Oracle where
  name := match checksum with
    | .crc8 => "CRC-8"
    | .crc16 => "CRC-16"
    | .crc32 => "CRC-32"
  outputWidth := checksum.width
  blockSize := 1
  stateWidth := checksum.width
  evaluate message := .ok (checksum.value message)
  compressionCalls length := .ok length
  description := match checksum with
    | .crc8 => "Crc8"
    | .crc16 => "Crc16"
    | .crc32 => "Crc32"

/-- A digest read as a big-endian number, priced by the blocks its padded message fills. -/
def ofDigest (name : String) (digest : Digest) (blockSize stateWidth : Nat)
    (filling : BlockFilling) : Oracle where
  name := name
  outputWidth := 8 * digest.size
  blockSize := blockSize
  stateWidth := stateWidth
  evaluate message := .ok (Bytes.value (digest.hash message))
  compressionCalls length := do
    let filled ← filling.filled length
    Word.ceilDiv filled blockSize
  description := "DigestOracle \x7b name: \"" ++ name ++ "\", block_size: " ++
    toString blockSize ++ ", state_width: " ++ toString stateWidth ++ ", padding: " ++
    filling.description ++ " \x7d"

/-- The low `width` bits of the fewest bytes of a stream that hold them, read as a big-endian
number. It is priced by the blocks of `rate` bytes absorbed and by those squeezed after the
first. -/
def ofStream (name : String) (stream : OutputStream) (rate width : Nat) : Oracle where
  name := name
  outputWidth := width
  blockSize := rate
  stateWidth := keccakStateWidth
  evaluate message := .ok (Bytes.value (stream.take (encodedLength width) message) % twoPow width)
  compressionCalls length := do
    let padded ← Word.fit Word.limit64 (length + 1)
    let absorbed ← Word.ceilDiv padded rate
    let squeezed ← Word.ceilDiv (encodedLength width) rate
    Word.fit Word.limit64 (absorbed + (squeezed - 1))
  description := "XofOracle \x7b name: \"" ++ name ++ "\", rate: " ++ toString rate ++
    ", output_width: " ++ toString width ++ " \x7d"

/-- A digest is priced by the blocks that cover its message with the least ending. -/
theorem compressionCalls_ofDigest (name : String) (digest : Digest) {blockSize : Nat}
    (positive : 0 < blockSize) (stateWidth : Nat) {filling : BlockFilling} {length filled : Nat}
    (fits : filling.filled length = .ok filled) :
    (ofDigest name digest blockSize stateWidth filling).compressionCalls length =
      .ok ((filled + (blockSize - 1)) / blockSize) := by
  show (filling.filled length >>= fun filled => Word.ceilDiv filled blockSize) = _
  rw [fits]
  exact Word.ceilDiv_of_pos positive

/-- A stream is priced by the blocks absorbed and by those squeezed after the first. -/
theorem compressionCalls_ofStream (name : String) (stream : OutputStream) {rate : Nat}
    (positive : 0 < rate) (width : Nat) {length : Nat} (fits : length + 1 < Word.limit64) :
    (ofStream name stream rate width).compressionCalls length = Word.fit Word.limit64
      ((length + 1 + (rate - 1)) / rate + ((encodedLength width + (rate - 1)) / rate - 1)) := by
  show (do
    let padded ← Word.fit Word.limit64 (length + 1)
    let absorbed ← Word.ceilDiv padded rate
    let squeezed ← Word.ceilDiv (encodedLength width) rate
    Word.fit Word.limit64 (absorbed + (squeezed - 1))) = _
  rw [Word.fit_of_lt fits]
  show (Word.ceilDiv (length + 1) rate >>= _) = _
  rw [Word.ceilDiv_of_pos positive, Word.ceilDiv_of_pos positive]
  rfl

end Oracle

end PreimageSearch
