import PreimageSearch.Hash.Padding
import PreimageSearch.Hash.Words

/-!
# Keccak sponges

The SHA-3 digests and the SHAKE output streams: a state of 25 lanes absorbs the padded message in
blocks of `rate` bytes and is squeezed for as many blocks as the output needs.
-/

namespace PreimageSearch.Keccak

open Words

/-- The state: lane `x + 5 * y` is the lane of column `x` in row `y`. -/
abbrev State := Vector UInt64 25

def State.zero : State := Vector.replicate 25 0

def lane (s : State) (x y : Nat) : UInt64 :=
  s.get ⟨x % 5 + 5 * (y % 5), by omega⟩

/-- The constants of the 24 rounds. -/
def constants : List UInt64 :=
  [0x0000000000000001, 0x0000000000008082, 0x800000000000808A, 0x8000000080008000,
    0x000000000000808B, 0x0000000080000001, 0x8000000080008081, 0x8000000000008009,
    0x000000000000008A, 0x0000000000000088, 0x0000000080008009, 0x000000008000000A,
    0x000000008000808B, 0x800000000000008B, 0x8000000000008089, 0x8000000000008003,
    0x8000000000008002, 0x8000000000000080, 0x000000000000800A, 0x800000008000000A,
    0x8000000080008081, 0x8000000000008080, 0x0000000080000001, 0x8000000080008008]

/-- The rotation count of each lane. -/
def offsets : Vector UInt64 25 :=
  #v[0, 1, 62, 28, 27, 36, 44, 6, 55, 20, 3, 10, 43, 25, 39, 41, 45, 15, 21, 8, 18, 2, 61, 56, 14]

/-- Adds to each lane the parities of two neighbouring columns. -/
def theta (s : State) : State :=
  let parity : Vector UInt64 5 := Vector.ofFn fun x =>
    lane s x 0 ^^^ lane s x 1 ^^^ lane s x 2 ^^^ lane s x 3 ^^^ lane s x 4
  let column (x : Nat) : UInt64 := parity.get ⟨x % 5, by omega⟩
  Vector.ofFn fun i => s.get i ^^^ column (i + 4) ^^^ rotateLeft64 (column (i + 1)) 1

/-- Rotates each lane by its count and moves it to its new place. -/
def rhoPi (s : State) : State :=
  let turned : State := Vector.ofFn fun i => rotateLeft64 (s.get i) (offsets.get i)
  Vector.ofFn fun i => lane turned (i % 5 + 3 * (i / 5)) (i % 5)

/-- Combines each lane with the two that follow it in its row. -/
def chi (s : State) : State :=
  Vector.ofFn fun i =>
    s.get i ^^^ (~~~lane s (i % 5 + 1) (i / 5) &&& lane s (i % 5 + 2) (i / 5))

/-- Adds a round constant to the first lane. -/
def iota (constant : UInt64) (s : State) : State :=
  s.set 0 (s.get 0 ^^^ constant)

/-- The permutation of the state. -/
def permute (s : State) : State :=
  constants.foldl (fun s constant => iota constant (chi (rhoPi (theta s)))) s

/-- Adds a block to the first lanes and permutes. -/
def absorb (s : State) (block : Bytes) : State :=
  let words := littleEndian64 block
  permute (Vector.ofFn fun i => s.get i ^^^ words.getD i 0)

/-- The state after the whole padded message. -/
def absorbed (rate : Nat) (domain : UInt8) (message : Bytes) : State :=
  (Bytes.pieces rate (Padding.sponge rate domain message)).foldl absorb State.zero

/-- The first `rate` bytes of a state. -/
def output (rate : Nat) (s : State) : Bytes :=
  (s.toList.flatMap fun word => (bytes64 word).reverse).take rate

/-- The output of `count` blocks, with a permutation between any two. -/
def squeezeBlocks (rate : Nat) : Nat → State → Bytes
  | 0, _ => []
  | count + 1, s => output rate s ++ squeezeBlocks rate count (permute s)

/-- The first `length` bytes of the output stream of a message. -/
def squeeze (rate : Nat) (domain : UInt8) (length : Nat) (message : Bytes) : Bytes :=
  (squeezeBlocks rate ((length + (rate - 1)) / rate) (absorbed rate domain message)).take length

/-- A SHA-3 digest of `length` bytes: the rate leaves twice that many bytes of the state aside. -/
def digest (length : Nat) (message : Bytes) : Bytes :=
  squeeze (200 - 2 * length) 0x06 length message

theorem length_output {rate : Nat} (h : rate ≤ 200) (s : State) :
    (output rate s).length = rate := by
  have held : (s.toList.flatMap fun word => (bytes64 word).reverse).length = 200 := by
    simp [List.length_flatMap, List.map_const']
  rw [output, List.length_take, held, Nat.min_eq_left h]

theorem length_squeezeBlocks {rate : Nat} (h : rate ≤ 200) (count : Nat) (s : State) :
    (squeezeBlocks rate count s).length = count * rate := by
  induction count generalizing s with
  | zero => simp [squeezeBlocks]
  | succ count ih =>
    rw [squeezeBlocks, List.length_append, length_output h, ih, Nat.succ_mul, Nat.add_comm]

theorem length_squeeze {rate : Nat} (positive : 0 < rate) (h : rate ≤ 200) (domain : UInt8)
    (length : Nat) (message : Bytes) : (squeeze rate domain length message).length = length := by
  rw [squeeze, List.length_take, length_squeezeBlocks h]
  exact Nat.min_eq_left (Word.le_parts_mul positive length)

theorem length_digest {length : Nat} (h : length < 100) (message : Bytes) :
    (digest length message).length = length :=
  length_squeeze (by omega) (by omega) _ _ _

end PreimageSearch.Keccak
