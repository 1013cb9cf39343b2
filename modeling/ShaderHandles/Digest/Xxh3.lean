import ShaderHandles.Digest.Word

/-!
# The 128-bit XXH3 digest

The digest of a byte string, without a seed and with the standard secret. Short inputs go through a
formula for their length; inputs over 240 bytes are folded, stripe by stripe, into eight lanes that
are merged at the end.

* `digest`: the two halves of the digest.
* `Halves.hex`: its 32 hexadecimal digits, the high half first.
-/

namespace ShaderHandles.Digest

/-- A 128-bit value. -/
structure Halves where
  low : UInt64
  high : UInt64
  deriving DecidableEq

namespace Xxh3

/-! ## Constants -/

def prime32_1 : UInt64 := 0x9e3779b1
def prime32_2 : UInt64 := 0x85ebca77
def prime32_3 : UInt64 := 0xc2b2ae3d
def prime64_1 : UInt64 := 0x9e3779b185ebca87
def prime64_2 : UInt64 := 0xc2b2ae3d27d4eb4f
def prime64_3 : UInt64 := 0x165667b19e3779f9
def prime64_4 : UInt64 := 0x85ebca77c2b2ae63
def prime64_5 : UInt64 := 0x27d4eb2f165667c5

def secret : ByteArray := ⟨#[
  0xb8, 0xfe, 0x6c, 0x39, 0x23, 0xa4, 0x4b, 0xbe, 0x7c, 0x01, 0x81, 0x2c, 0xf7, 0x21, 0xad, 0x1c,
  0xde, 0xd4, 0x6d, 0xe9, 0x83, 0x90, 0x97, 0xdb, 0x72, 0x40, 0xa4, 0xa4, 0xb7, 0xb3, 0x67, 0x1f,
  0xcb, 0x79, 0xe6, 0x4e, 0xcc, 0xc0, 0xe5, 0x78, 0x82, 0x5a, 0xd0, 0x7d, 0xcc, 0xff, 0x72, 0x21,
  0xb8, 0x08, 0x46, 0x74, 0xf7, 0x43, 0x24, 0x8e, 0xe0, 0x35, 0x90, 0xe6, 0x81, 0x3a, 0x26, 0x4c,
  0x3c, 0x28, 0x52, 0xbb, 0x91, 0xc3, 0x00, 0xcb, 0x88, 0xd0, 0x65, 0x8b, 0x1b, 0x53, 0x2e, 0xa3,
  0x71, 0x64, 0x48, 0x97, 0xa2, 0x0d, 0xf9, 0x4e, 0x38, 0x19, 0xef, 0x46, 0xa9, 0xde, 0xac, 0xd8,
  0xa8, 0xfa, 0x76, 0x3f, 0xe3, 0x9c, 0x34, 0x3f, 0xf9, 0xdc, 0xbb, 0xc7, 0xc7, 0x0b, 0x4f, 0x1d,
  0x8a, 0x51, 0xe0, 0x4b, 0xcd, 0xb4, 0x59, 0x31, 0xc8, 0x9f, 0x7e, 0xc9, 0xd9, 0x78, 0x73, 0x64,
  0xea, 0xc5, 0xac, 0x83, 0x34, 0xd3, 0xeb, 0xc3, 0xc5, 0x81, 0xa0, 0xff, 0xfa, 0x13, 0x63, 0xeb,
  0x17, 0x0d, 0xdd, 0x51, 0xb7, 0xf0, 0xda, 0x49, 0xd3, 0x16, 0x55, 0x26, 0x29, 0xd4, 0x68, 0x9e,
  0x2b, 0x16, 0xbe, 0x58, 0x7d, 0x47, 0xa1, 0xfc, 0x8f, 0xf8, 0xb8, 0xd1, 0x7a, 0xd0, 0x31, 0xce,
  0x45, 0xcb, 0x3a, 0x8f, 0x95, 0x16, 0x04, 0x28, 0xaf, 0xd7, 0xfb, 0xca, 0xbb, 0x4b, 0x40, 0x7e]⟩

def stripeSize : Nat := 64

/-- The number of stripes of a block, after which the lanes are scrambled. -/
def stripesPerBlock : Nat := 16

def blockSize : Nat := stripeSize * stripesPerBlock

/-! ## Finishing -/

/-- The final mixing of the short formulas. -/
def finishShort (x : UInt64) : UInt64 :=
  shiftMix (shiftMix (shiftMix x 33 * prime64_2) 29 * prime64_3) 32

/-- The final mixing of the long formulas. -/
def finish (x : UInt64) : UInt64 :=
  shiftMix (shiftMix x 37 * 0x165667919e3779f9) 32

def lengthWord (data : ByteArray) : UInt64 := UInt64.ofNat data.size

/-! ## Inputs of at most 16 bytes -/

def ofEmpty : Halves where
  low := finishShort (word64 secret 64 ^^^ word64 secret 72)
  high := finishShort (word64 secret 80 ^^^ word64 secret 88)

def ofUpTo3 (data : ByteArray) : Halves :=
  let first := (byteAt data 0).toUInt32
  let middle := (byteAt data (data.size / 2)).toUInt32
  let last := (byteAt data (data.size - 1)).toUInt32
  let low := (first <<< 16) ||| (middle <<< 24) ||| last ||| ((lengthWord data).toUInt32 <<< 8)
  let high := rotateLeft32 (swapBytes32 low) 13
  { low := finishShort (low.toUInt64 ^^^ (word32 secret 0 ^^^ word32 secret 4).toUInt64)
    high := finishShort (high.toUInt64 ^^^ (word32 secret 8 ^^^ word32 secret 12).toUInt64) }

def ofUpTo8 (data : ByteArray) : Halves :=
  let input := (word32 data 0).toUInt64 + ((word32 data (data.size - 4)).toUInt64 <<< 32)
  let keyed := input ^^^ (word64 secret 16 ^^^ word64 secret 24)
  let (low, high) := mulWide keyed (prime64_1 + (lengthWord data <<< 2))
  let high := high + (low <<< 1)
  let low := low ^^^ (high >>> 3)
  { low := shiftMix (shiftMix low 35 * 0x9fb21c651e98df25) 28
    high := finish high }

def ofUpTo16 (data : ByteArray) : Halves :=
  let first := word64 data 0
  let last := word64 data (data.size - 8)
  let (low, high) :=
    mulWide (first ^^^ last ^^^ (word64 secret 32 ^^^ word64 secret 40)) prime64_1
  let low := low + ((lengthWord data - 1) <<< 54)
  let last := last ^^^ (word64 secret 48 ^^^ word64 secret 56)
  let high := high + (last + (last &&& (0xffffffff : UInt64)) * (prime32_2 - 1))
  let low := low ^^^ swapBytes64 high
  let (low', high') := mulWide low prime64_2
  { low := finish low', high := finish (high' + high * prime64_2) }

/-! ## Inputs of at most 240 bytes -/

/-- Sixteen bytes mixed with sixteen bytes of the secret. -/
def mix16 (data : ByteArray) (offset key : Nat) : UInt64 :=
  mulFold (word64 data offset ^^^ word64 secret key)
    (word64 data (offset + 8) ^^^ word64 secret (key + 8))

/-- The sum of the two words of sixteen bytes. -/
def sum16 (data : ByteArray) (offset : Nat) : UInt64 :=
  word64 data offset + word64 data (offset + 8)

/-- Two pieces of sixteen bytes mixed into the state. -/
def mixPair (data : ByteArray) (state : Halves) (first second key : Nat) : Halves where
  low := (state.low + mix16 data first key) ^^^ sum16 data second
  high := (state.high + mix16 data second (key + 16)) ^^^ sum16 data first

/-- The state before the first piece is mixed in. -/
def start (data : ByteArray) : Halves where
  low := lengthWord data * prime64_1
  high := 0

/-- The digest of a state into which every piece is mixed. -/
def close (data : ByteArray) (state : Halves) : Halves where
  low := finish (state.low + state.high)
  high :=
    0 - finish (state.low * prime64_1 + state.high * prime64_4 + lengthWord data * prime64_2)

/-- The digest of 17 to 128 bytes: pairs from both ends, the innermost pair first. -/
def ofUpTo128 (data : ByteArray) : Halves :=
  close data <|
    (List.range ((data.size - 1) / 32 + 1)).reverse.foldl
      (fun state i =>
        mixPair data state (16 * i) (data.size - 16 * (i + 1)) (32 * i))
      (start data)

/-- The digest of 129 to 240 bytes: consecutive pairs, with a mixing of the state after the first
four, and the last 32 bytes once more. -/
def ofUpTo240 (data : ByteArray) : Halves :=
  let pairAt (key : Nat → Nat) (state : Halves) (i : Nat) : Halves :=
    mixPair data state (32 * i) (32 * i + 16) (key i)
  let state := (List.range 4).foldl (pairAt fun i => 32 * i) (start data)
  let state : Halves := ⟨finish state.low, finish state.high⟩
  let state := (List.range' 4 (data.size / 32 - 4)).foldl (pairAt fun i => 3 + 32 * (i - 4)) state
  close data (mixPair data state (data.size - 16) (data.size - 32) 103)

/-! ## Longer inputs -/

/-- The lanes before the first stripe. -/
def startLanes : List UInt64 :=
  [prime32_3, prime64_1, prime64_2, prime64_3, prime64_4, prime32_2, prime64_5, prime32_1]

/-- A list with the members of each consecutive pair exchanged. -/
def swapPairs : List UInt64 → List UInt64
  | first :: second :: rest => second :: first :: swapPairs rest
  | rest => rest

/-- The lanes after a stripe, with the secret read at an offset. -/
def accumulate (data : ByteArray) (lanes : List UInt64) (stripe key : Nat) : List UInt64 :=
  let words := words64 data stripe 8
  let keyed := List.zipWith (fun word key => mulHalves (word ^^^ key)) words (words64 secret key 8)
  List.zipWith (· + ·) (List.zipWith (· + ·) lanes (swapPairs words)) keyed

/-- The lanes after the first `count` stripes of the block at an offset. -/
def accumulateBlock (data : ByteArray) (lanes : List UInt64) (block count : Nat) : List UInt64 :=
  (List.range count).foldl
    (fun lanes i => accumulate data lanes (block + stripeSize * i) (8 * i)) lanes

/-- The lanes between two blocks. -/
def scramble (lanes : List UInt64) : List UInt64 :=
  List.zipWith (fun lane key => (shiftMix lane 47 ^^^ key) * prime32_1) lanes
    (words64 secret (secret.size - stripeSize) 8)

/-- The sum of the products of the keyed pairs of lanes. -/
def foldPairs : List UInt64 → List UInt64 → UInt64
  | lane :: lane' :: lanes, key :: key' :: keys =>
    mulFold (lane ^^^ key) (lane' ^^^ key') + foldPairs lanes keys
  | _, _ => 0

/-- One half of the digest: the lanes merged under the secret at an offset. -/
def mergeLanes (lanes : List UInt64) (key : Nat) (initial : UInt64) : UInt64 :=
  finish (initial + foldPairs lanes (words64 secret key 8))

/-- The digest of more than 240 bytes. -/
def ofLong (data : ByteArray) : Halves :=
  let blocks := (data.size - 1) / blockSize
  let lanes := (List.range blocks).foldl
    (fun lanes i => scramble (accumulateBlock data lanes (blockSize * i) stripesPerBlock))
    startLanes
  let stripes := (data.size - 1 - blockSize * blocks) / stripeSize
  let lanes := accumulateBlock data lanes (blockSize * blocks) stripes
  let lanes := accumulate data lanes (data.size - stripeSize) (secret.size - stripeSize - 7)
  { low := mergeLanes lanes 11 (lengthWord data * prime64_1)
    high :=
      mergeLanes lanes (secret.size - stripeSize - 11) (~~~(lengthWord data * prime64_2)) }

end Xxh3

def digest (data : ByteArray) : Halves :=
  if data.size = 0 then Xxh3.ofEmpty
  else if data.size ≤ 3 then Xxh3.ofUpTo3 data
  else if data.size ≤ 8 then Xxh3.ofUpTo8 data
  else if data.size ≤ 16 then Xxh3.ofUpTo16 data
  else if data.size ≤ 128 then Xxh3.ofUpTo128 data
  else if data.size ≤ 240 then Xxh3.ofUpTo240 data
  else Xxh3.ofLong data

/-- Sixteen hexadecimal digits, lower case. -/
def hexWord (word : UInt64) : String :=
  let digits := Nat.toDigits 16 word.toNat
  String.ofList (List.replicate (16 - digits.length) '0' ++ digits)

/-- The 32 hexadecimal digits, the high half first. -/
def Halves.hex (value : Halves) : String := hexWord value.high ++ hexWord value.low

end ShaderHandles.Digest
