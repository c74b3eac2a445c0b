import PreimageSearch.Bytes

/-!
# Padding of hashed messages

Iterated hash functions consume whole blocks. A strengthened message ends in a `0x80` byte, the
fewest zero bytes that leave room for the length field, and the length field; a sponge message ends
in a domain byte and zero bytes, the last byte of the block with its high bit set.
-/

namespace PreimageSearch.Padding

/-- The fewest bytes that bring `n` to a multiple of `block`. -/
def gap (block n : Nat) : Nat :=
  (block - n % block) % block

/-- A message with the ending of a strengthened iterated hash. -/
def strengthen (block : Nat) (lengthField message : Bytes) : Bytes :=
  message ++ 0x80 ::
    (List.replicate (gap block (message.length + 1 + lengthField.length)) 0 ++ lengthField)

/-- The bytes after a sponge message of `length` bytes: `domain` marks the end of the message, and
the high bit of the last byte the end of the block. -/
def spongeEnding (rate : Nat) (domain : UInt8) (length : Nat) : Bytes :=
  match gap rate (length + 1) with
  | 0 => [domain ||| 0x80]
  | zeros + 1 => domain :: (List.replicate zeros 0 ++ [0x80])

/-- A message with the ending of a sponge. -/
def sponge (rate : Nat) (domain : UInt8) (message : Bytes) : Bytes :=
  message ++ spongeEnding rate domain message.length

end PreimageSearch.Padding
