import PreimageSearch.Hash.Padding
import PreimageSearch.Hash.Words

/-!
# SHA-1

An iterated hash over 64-byte blocks with big-endian words and a digest of 20 bytes.
-/

namespace PreimageSearch.Sha1

open Words

structure State where
  a : UInt32
  b : UInt32
  c : UInt32
  d : UInt32
  e : UInt32

def State.initial : State :=
  ⟨0x67452301, 0xEFCDAB89, 0x98BADCFE, 0x10325476, 0xC3D2E1F0⟩

/-- The 80 words that a block expands to. -/
def expand (block : Bytes) : Array UInt32 :=
  (List.range' 16 64).foldl (fun w t => w.push <| rotateLeft32
    (w.getD (t - 3) 0 ^^^ w.getD (t - 8) 0 ^^^ w.getD (t - 14) 0 ^^^ w.getD (t - 16) 0) 1)
    (bigEndian32 block)

/-- The round function of step `t` and its constant. -/
def round (t : Nat) (b c d : UInt32) : UInt32 × UInt32 :=
  match t / 20 with
  | 0 => ((b &&& c) ||| (~~~b &&& d), 0x5A827999)
  | 1 => (b ^^^ c ^^^ d, 0x6ED9EBA1)
  | 2 => ((b &&& c) ||| (b &&& d) ||| (c &&& d), 0x8F1BBCDC)
  | _ => (b ^^^ c ^^^ d, 0xCA62C1D6)

def step (words : Array UInt32) (s : State) (t : Nat) : State :=
  let (f, k) := round t s.b s.c s.d
  ⟨rotateLeft32 s.a 5 + f + s.e + k + words.getD t 0, s.a, rotateLeft32 s.b 30, s.c, s.d⟩

def compress (s : State) (block : Bytes) : State :=
  let words := expand block
  let t := (List.range 80).foldl (step words) s
  ⟨s.a + t.a, s.b + t.b, s.c + t.c, s.d + t.d, s.e + t.e⟩

/-- The length of a message in bits, the lowest 64 of them. -/
def lengthField (message : Bytes) : Bytes :=
  Bytes.ofValue 8 (8 * message.length)

/-- The blocks that are compressed for a message. -/
def blocks (message : Bytes) : List Bytes :=
  Bytes.pieces 64 (Padding.strengthen 64 (lengthField message) message)

def digest (message : Bytes) : Bytes :=
  let s := (blocks message).foldl compress State.initial
  [s.a, s.b, s.c, s.d, s.e].flatMap bytes32

@[simp]
theorem length_digest (message : Bytes) : (digest message).length = 20 := by
  simp [digest]

end PreimageSearch.Sha1
