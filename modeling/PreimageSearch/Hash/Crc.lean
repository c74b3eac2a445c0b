import PreimageSearch.Bits
import PreimageSearch.Bytes

/-!
# Cyclic redundancy checks

A check of `w` bits is computed by a register of `w` bits that takes the message byte by byte and
shifts once for each bit.
-/

namespace PreimageSearch

/-- Which end of the register takes the message and where its bits leave. -/
inductive Crc.Order where
  | highFirst
  | lowFirst
  deriving DecidableEq, Repr

/-- A cyclic redundancy check of `w` bits. -/
structure Crc (w : Nat) where
  order : Crc.Order
  /-- The generator polynomial, its bits in the order in which the register holds them. -/
  generator : BitVec w
  /-- The register before the first byte. -/
  start : BitVec w
  /-- What the last register is combined with. -/
  final : BitVec w

namespace Crc

variable {w : Nat}

/-- One shift, which is a doubling towards the high end: a bit that leaves the register brings the
generator in. -/
def shift (crc : Crc w) (register : BitVec w) : BitVec w :=
  match crc.order with
  | .highFirst =>
    if register.msb then (register + register) ^^^ crc.generator else register + register
  | .lowFirst =>
    if register.getLsbD 0 then (register >>> 1) ^^^ crc.generator else register >>> 1

/-- The register after one more byte. -/
def step (crc : Crc w) (register : BitVec w) (byte : UInt8) : BitVec w :=
  let taken := match crc.order with
    | .highFirst => register ^^^ (BitVec.ofNat w byte.toNat <<< (w - 8))
    | .lowFirst => register ^^^ BitVec.ofNat w byte.toNat
  (List.range 8).foldl (fun register _ => crc.shift register) taken

/-- The check of a message. -/
def checksum (crc : Crc w) (message : Bytes) : BitVec w :=
  message.foldl crc.step crc.start ^^^ crc.final

end Crc

/-- The checks of the catalog. -/
inductive Checksum where
  | crc8
  | crc16
  | crc32
  deriving DecidableEq, Repr

namespace Checksum

/-- The polynomial `x^8 + x^2 + x + 1`, high bits first. -/
def smbus8 : Crc 8 := ⟨.highFirst, 0x07, 0, 0⟩

/-- The polynomial `x^16 + x^15 + x^2 + 1`, low bits first. -/
def arc16 : Crc 16 := ⟨.lowFirst, 0xA001, 0, 0⟩

/-- The polynomial of Ethernet frames, low bits first, complemented at both ends. -/
def ethernet32 : Crc 32 := ⟨.lowFirst, 0xEDB88320, 0xFFFFFFFF, 0xFFFFFFFF⟩

def width : Checksum → Nat
  | crc8 => 8
  | crc16 => 16
  | crc32 => 32

def value (message : Bytes) : Checksum → Nat
  | crc8 => (smbus8.checksum message).toNat
  | crc16 => (arc16.checksum message).toNat
  | crc32 => (ethernet32.checksum message).toNat

/-- Every check fits its width. -/
theorem value_lt (message : Bytes) (checksum : Checksum) :
    checksum.value message < twoPow checksum.width := by
  cases checksum <;> exact BitVec.isLt _

end Checksum

end PreimageSearch
