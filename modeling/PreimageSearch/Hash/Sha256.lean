import PreimageSearch.Hash.Padding
import PreimageSearch.Hash.Words

/-!
# SHA-224 and SHA-256

Iterated hashes over 64-byte blocks with 32-bit big-endian words; the shorter digest starts
elsewhere and drops the last word.
-/

namespace PreimageSearch.Sha256

open Words

structure State where
  a : UInt32
  b : UInt32
  c : UInt32
  d : UInt32
  e : UInt32
  f : UInt32
  g : UInt32
  h : UInt32

/-- The second 32 bits of the fractional parts of the square roots of the ninth to sixteenth
prime. -/
def State.initial224 : State :=
  ⟨0xC1059ED8, 0x367CD507, 0x3070DD17, 0xF70E5939,
    0xFFC00B31, 0x68581511, 0x64F98FA7, 0xBEFA4FA4⟩

/-- The first 32 bits of the fractional parts of the square roots of the first eight primes. -/
def State.initial256 : State :=
  ⟨0x6A09E667, 0xBB67AE85, 0x3C6EF372, 0xA54FF53A,
    0x510E527F, 0x9B05688C, 0x1F83D9AB, 0x5BE0CD19⟩

/-- The first 32 bits of the fractional parts of the cube roots of the first 64 primes. -/
def roots : Array UInt32 :=
  #[
    0x428A2F98, 0x71374491, 0xB5C0FBCF, 0xE9B5DBA5, 0x3956C25B, 0x59F111F1, 0x923F82A4, 0xAB1C5ED5,
    0xD807AA98, 0x12835B01, 0x243185BE, 0x550C7DC3, 0x72BE5D74, 0x80DEB1FE, 0x9BDC06A7, 0xC19BF174,
    0xE49B69C1, 0xEFBE4786, 0x0FC19DC6, 0x240CA1CC, 0x2DE92C6F, 0x4A7484AA, 0x5CB0A9DC, 0x76F988DA,
    0x983E5152, 0xA831C66D, 0xB00327C8, 0xBF597FC7, 0xC6E00BF3, 0xD5A79147, 0x06CA6351, 0x14292967,
    0x27B70A85, 0x2E1B2138, 0x4D2C6DFC, 0x53380D13, 0x650A7354, 0x766A0ABB, 0x81C2C92E, 0x92722C85,
    0xA2BFE8A1, 0xA81A664B, 0xC24B8B70, 0xC76C51A3, 0xD192E819, 0xD6990624, 0xF40E3585, 0x106AA070,
    0x19A4C116, 0x1E376C08, 0x2748774C, 0x34B0BCB5, 0x391C0CB3, 0x4ED8AA4A, 0x5B9CCA4F, 0x682E6FF3,
    0x748F82EE, 0x78A5636F, 0x84C87814, 0x8CC70208, 0x90BEFFFA, 0xA4506CEB, 0xBEF9A3F7, 0xC67178F2]

/-- The 64 words that a block expands to. -/
def expand (block : Bytes) : Array UInt32 :=
  (List.range' 16 48).foldl (fun w t =>
    let x := w.getD (t - 15) 0
    let y := w.getD (t - 2) 0
    w.push <| w.getD (t - 16) 0 + (rotateRight32 x 7 ^^^ rotateRight32 x 18 ^^^ (x >>> 3))
      + w.getD (t - 7) 0 + (rotateRight32 y 17 ^^^ rotateRight32 y 19 ^^^ (y >>> 10)))
    (bigEndian32 block)

def step (words : Array UInt32) (s : State) (t : Nat) : State :=
  let mixed := rotateRight32 s.e 6 ^^^ rotateRight32 s.e 11 ^^^ rotateRight32 s.e 25
  let chosen := (s.e &&& s.f) ^^^ (~~~s.e &&& s.g)
  let first := s.h + mixed + chosen + roots.getD t 0 + words.getD t 0
  let turned := rotateRight32 s.a 2 ^^^ rotateRight32 s.a 13 ^^^ rotateRight32 s.a 22
  let majority := (s.a &&& s.b) ^^^ (s.a &&& s.c) ^^^ (s.b &&& s.c)
  ⟨first + turned + majority, s.a, s.b, s.c, s.d + first, s.e, s.f, s.g⟩

def compress (s : State) (block : Bytes) : State :=
  let words := expand block
  let t := (List.range 64).foldl (step words) s
  ⟨s.a + t.a, s.b + t.b, s.c + t.c, s.d + t.d, s.e + t.e, s.f + t.f, s.g + t.g, s.h + t.h⟩

/-- The length of a message in bits, the lowest 64 of them. -/
def lengthField (message : Bytes) : Bytes :=
  Bytes.ofValue 8 (8 * message.length)

/-- The blocks that are compressed for a message. -/
def blocks (message : Bytes) : List Bytes :=
  Bytes.pieces 64 (Padding.strengthen 64 (lengthField message) message)

/-- The bytes of the state that a message leads to. -/
def hash (start : State) (message : Bytes) : Bytes :=
  let s := (blocks message).foldl compress start
  [s.a, s.b, s.c, s.d, s.e, s.f, s.g, s.h].flatMap bytes32

@[simp]
theorem length_hash (start : State) (message : Bytes) : (hash start message).length = 32 := by
  simp [hash]

/-- The digest of 28 bytes. -/
def digest224 (message : Bytes) : Bytes :=
  (hash .initial224 message).take 28

@[simp]
theorem length_digest224 (message : Bytes) : (digest224 message).length = 28 := by
  simp [digest224]

/-- The digest of 32 bytes. -/
def digest256 (message : Bytes) : Bytes :=
  (hash .initial256 message)

@[simp]
theorem length_digest256 (message : Bytes) : (digest256 message).length = 32 := by
  simp [digest256]

end PreimageSearch.Sha256
