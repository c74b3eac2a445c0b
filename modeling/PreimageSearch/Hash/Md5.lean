import PreimageSearch.Hash.Padding
import PreimageSearch.Hash.Words

/-!
# MD5

An iterated hash over 64-byte blocks with little-endian words and a digest of 16 bytes.
-/

namespace PreimageSearch.Md5

open Words

structure State where
  a : UInt32
  b : UInt32
  c : UInt32
  d : UInt32

def State.initial : State :=
  ⟨0x67452301, 0xEFCDAB89, 0x98BADCFE, 0x10325476⟩

/-- The constant `⌊2 ^ 32 · |sin (i + 1)|⌋` of each step `i`. -/
def sines : Array UInt32 :=
  #[
    0xD76AA478, 0xE8C7B756, 0x242070DB, 0xC1BDCEEE, 0xF57C0FAF, 0x4787C62A,
    0xA8304613, 0xFD469501, 0x698098D8, 0x8B44F7AF, 0xFFFF5BB1, 0x895CD7BE,
    0x6B901122, 0xFD987193, 0xA679438E, 0x49B40821, 0xF61E2562, 0xC040B340,
    0x265E5A51, 0xE9B6C7AA, 0xD62F105D, 0x02441453, 0xD8A1E681, 0xE7D3FBC8,
    0x21E1CDE6, 0xC33707D6, 0xF4D50D87, 0x455A14ED, 0xA9E3E905, 0xFCEFA3F8,
    0x676F02D9, 0x8D2A4C8A, 0xFFFA3942, 0x8771F681, 0x6D9D6122, 0xFDE5380C,
    0xA4BEEA44, 0x4BDECFA9, 0xF6BB4B60, 0xBEBFBC70, 0x289B7EC6, 0xEAA127FA,
    0xD4EF3085, 0x04881D05, 0xD9D4D039, 0xE6DB99E5, 0x1FA27CF8, 0xC4AC5665,
    0xF4292244, 0x432AFF97, 0xAB9423A7, 0xFC93A039, 0x655B59C3, 0x8F0CCC92,
    0xFFEFF47D, 0x85845DD1, 0x6FA87E4F, 0xFE2CE6E0, 0xA3014314, 0x4E0811A1,
    0xF7537E82, 0xBD3AF235, 0x2AD7D2BB, 0xEB86D391]

/-- The rotation counts of the four rounds, repeated every four steps. -/
def rotations : Array UInt32 :=
  #[7, 12, 17, 22, 5, 9, 14, 20, 4, 11, 16, 23, 6, 10, 15, 21]

/-- The round function of step `i` and the word of the block it takes. -/
def round (i : Nat) (b c d : UInt32) : UInt32 × Nat :=
  match i / 16 with
  | 0 => ((b &&& c) ||| (~~~b &&& d), i)
  | 1 => ((d &&& b) ||| (~~~d &&& c), (5 * i + 1) % 16)
  | 2 => (b ^^^ c ^^^ d, (3 * i + 5) % 16)
  | _ => (c ^^^ (b ||| ~~~d), (7 * i) % 16)

def step (words : Array UInt32) (s : State) (i : Nat) : State :=
  let (f, word) := round i s.b s.c s.d
  let sum := s.a + f + sines.getD i 0 + words.getD word 0
  ⟨s.d, s.b + rotateLeft32 sum (rotations.getD (i / 16 * 4 + i % 4) 0), s.b, s.c⟩

def compress (s : State) (block : Bytes) : State :=
  let words := littleEndian32 block
  let t := (List.range 64).foldl (step words) s
  ⟨s.a + t.a, s.b + t.b, s.c + t.c, s.d + t.d⟩

/-- The length of a message in bits, the lowest 64 of them, the least significant byte first. -/
def lengthField (message : Bytes) : Bytes :=
  (Bytes.ofValue 8 (8 * message.length)).reverse

/-- The blocks that are compressed for a message. -/
def blocks (message : Bytes) : List Bytes :=
  Bytes.pieces 64 (Padding.strengthen 64 (lengthField message) message)

def digest (message : Bytes) : Bytes :=
  let s := (blocks message).foldl compress State.initial
  [s.a, s.b, s.c, s.d].flatMap fun word => (bytes32 word).reverse

@[simp]
theorem length_digest (message : Bytes) : (digest message).length = 16 := by
  simp [digest]

end PreimageSearch.Md5
