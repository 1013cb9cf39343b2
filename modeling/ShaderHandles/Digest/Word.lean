/-!
# Words of a byte string

Digests read their input as little-endian words and mix them with multiplications, rotations and
shifts that wrap at the width of the word.

* `word32`, `word64`: the words at an offset; bytes after the end count as zero.
* `mulWide`: the full product of two words, as its low and its high half.
-/

namespace ShaderHandles.Digest

/-- The byte at an offset, zero after the end. -/
def byteAt (data : ByteArray) (offset : Nat) : UInt8 := data[offset]?.getD 0

def littleEndian (data : ByteArray) (offset : Nat) : (count : Nat) → Nat
  | 0 => 0
  | count + 1 =>
    (byteAt data offset).toNat + 256 * littleEndian data (offset + 1) count

def word32 (data : ByteArray) (offset : Nat) : UInt32 :=
  UInt32.ofNat (littleEndian data offset 4)

def word64 (data : ByteArray) (offset : Nat) : UInt64 :=
  UInt64.ofNat (littleEndian data offset 8)

def words64 (data : ByteArray) (offset count : Nat) : List UInt64 :=
  (List.range count).map fun i => word64 data (offset + 8 * i)

/-- A 32-bit word with its bits moved to the left in a circle. -/
def rotateLeft32 (x : UInt32) (count : UInt32) : UInt32 :=
  (x <<< count) ||| (x >>> (32 - count))

/-- A 32-bit word with its bytes in the opposite order. -/
def swapBytes32 (x : UInt32) : UInt32 :=
  (x <<< 24) ||| ((x <<< 8) &&& (0x00ff0000 : UInt32)) |||
    ((x >>> 8) &&& (0x0000ff00 : UInt32)) ||| (x >>> 24)

/-- A 64-bit word with its bytes in the opposite order. -/
def swapBytes64 (x : UInt64) : UInt64 :=
  ((swapBytes32 x.toUInt32).toUInt64 <<< 32) ||| (swapBytes32 (x >>> 32).toUInt32).toUInt64

/-- A word with its own bits, shifted to the right, mixed in. -/
def shiftMix (x count : UInt64) : UInt64 := x ^^^ (x >>> count)

def mulHalves (x : UInt64) : UInt64 := (x &&& (0xffffffff : UInt64)) * (x >>> 32)

/-- The low and the high half of the full product. -/
def mulWide (x y : UInt64) : UInt64 × UInt64 :=
  (x * y, UInt64.ofNat (x.toNat * y.toNat / 0x10000000000000000))

/-- Both halves of the full product, mixed. -/
def mulFold (x y : UInt64) : UInt64 :=
  let (low, high) := mulWide x y
  low ^^^ high

end ShaderHandles.Digest
