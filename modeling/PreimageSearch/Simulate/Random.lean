import PreimageSearch.Hash.Words

/-!
# Random words

The stream of 64-bit words of a seed: the keystream of the ChaCha cipher with twelve rounds, keyed
by a congruential generator that the seed starts.
-/

namespace PreimageSearch.Random

open Words

/-- A cipher block: sixteen words. -/
abbrev Block := Vector UInt32 16

/-- The next state of the generator of keys. -/
def nextState (state : UInt64) : UInt64 :=
  state * 6364136223846793005 + 11634580027462260723

/-- The key word of a state: some high bits, rotated by the highest five. -/
def keyWord (state : UInt64) : UInt32 :=
  let word := (((state >>> 18) ^^^ state) >>> 27).toUInt32
  let count := (state >>> 59).toUInt32
  (word >>> count) ||| (word <<< ((32 - count) % 32))

/-- The next `count` key words after a state. -/
def keyWords : (count : Nat) → UInt64 → List UInt32
  | 0, _ => []
  | count + 1, state => keyWord (nextState state) :: keyWords count (nextState state)

/-- The block before the rounds: constants, key, block number and a zero nonce. -/
def startBlock (seed : UInt64) (number : Nat) : Block :=
  let key := (keyWords 8 seed).toArray
  let counter := UInt64.ofNat number
  #v[0x61707865, 0x3320646E, 0x79622D32, 0x6B206574,
    key.getD 0 0, key.getD 1 0, key.getD 2 0, key.getD 3 0,
    key.getD 4 0, key.getD 5 0, key.getD 6 0, key.getD 7 0,
    counter.toUInt32, (counter >>> 32).toUInt32, 0, 0]

/-- Mixes four words of a block. -/
def quarterRound (a b c d : Fin 16) (s : Block) : Block :=
  let s := s.set a (s.get a + s.get b)
  let s := s.set d (rotateLeft32 (s.get d ^^^ s.get a) 16)
  let s := s.set c (s.get c + s.get d)
  let s := s.set b (rotateLeft32 (s.get b ^^^ s.get c) 12)
  let s := s.set a (s.get a + s.get b)
  let s := s.set d (rotateLeft32 (s.get d ^^^ s.get a) 8)
  let s := s.set c (s.get c + s.get d)
  s.set b (rotateLeft32 (s.get b ^^^ s.get c) 7)

/-- A round over the columns and a round over the diagonals. -/
def doubleRound (s : Block) : Block :=
  let s := quarterRound 3 7 11 15 (quarterRound 2 6 10 14
    (quarterRound 1 5 9 13 (quarterRound 0 4 8 12 s)))
  quarterRound 3 4 9 14 (quarterRound 2 7 8 13
    (quarterRound 1 6 11 12 (quarterRound 0 5 10 15 s)))

/-- A block of the keystream. -/
def block (seed : UInt64) (number : Nat) : Block :=
  let start := startBlock seed number
  let mixed := (List.range 6).foldl (fun s _ => doubleRound s) start
  Vector.zipWith (· + ·) mixed start

/-- The word at a position of the stream of a seed: two neighbouring words of the keystream, the low
half first. -/
def word (seed : UInt64) (position : Nat) : UInt64 :=
  let s := block seed (position / 8)
  let low := s.get ⟨2 * (position % 8), by omega⟩
  let high := s.get ⟨2 * (position % 8) + 1, by omega⟩
  low.toUInt64 ||| (high.toUInt64 <<< 32)

end PreimageSearch.Random
