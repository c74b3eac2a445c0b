import PreimageSearch.Bytes

/-!
# Words of a hash function

Blocks of bytes as sequences of 32-bit or 64-bit words, in either byte order, and back.
-/

namespace PreimageSearch.Words

/-- The four bytes of a word, the most significant first. -/
def bytes32 (word : UInt32) : Bytes :=
  [(word >>> 24).toUInt8, (word >>> 16).toUInt8, (word >>> 8).toUInt8, word.toUInt8]

/-- The eight bytes of a word, the most significant first. -/
def bytes64 (word : UInt64) : Bytes :=
  bytes32 (word >>> 32).toUInt32 ++ bytes32 word.toUInt32

/-- The words of a block whose bytes stand the most significant first. -/
def bigEndian32 (block : Bytes) : Array UInt32 :=
  ((Bytes.pieces 4 block).map fun piece => UInt32.ofNat (Bytes.value piece)).toArray

/-- The words of a block whose bytes stand the least significant first. -/
def littleEndian32 (block : Bytes) : Array UInt32 :=
  ((Bytes.pieces 4 block).map fun piece => UInt32.ofNat (Bytes.value piece.reverse)).toArray

/-- The words of a block whose bytes stand the most significant first. -/
def bigEndian64 (block : Bytes) : Array UInt64 :=
  ((Bytes.pieces 8 block).map fun piece => UInt64.ofNat (Bytes.value piece)).toArray

/-- The words of a block whose bytes stand the least significant first. -/
def littleEndian64 (block : Bytes) : Array UInt64 :=
  ((Bytes.pieces 8 block).map fun piece => UInt64.ofNat (Bytes.value piece.reverse)).toArray

def rotateLeft32 (word : UInt32) (count : UInt32) : UInt32 :=
  (word <<< count) ||| (word >>> (32 - count))

def rotateRight32 (word : UInt32) (count : UInt32) : UInt32 :=
  (word >>> count) ||| (word <<< (32 - count))

def rotateRight64 (word : UInt64) (count : UInt64) : UInt64 :=
  (word >>> count) ||| (word <<< (64 - count))

/-- Rotation by any count, zero included. -/
def rotateLeft64 (word : UInt64) (count : UInt64) : UInt64 :=
  (word <<< count) ||| (word >>> ((64 - count) % 64))

@[simp]
theorem length_bytes32 (word : UInt32) : (bytes32 word).length = 4 := rfl

@[simp]
theorem length_bytes64 (word : UInt64) : (bytes64 word).length = 8 := rfl

end PreimageSearch.Words
