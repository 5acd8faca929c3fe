/-! The 128-bit XXH3 hash of a sequence of octets, without seed. Short inputs are mixed
directly with parts of a fixed secret; inputs of more than 240 octets run through eight
64-bit lanes, a stripe of 64 octets at a time. -/

namespace LiveCompile.Xxh3

/-- A 128-bit word. -/
structure Wide where
  low : UInt64
  high : UInt64
  deriving DecidableEq, Repr

def prime32a : UInt64 := 0x9E3779B1
def prime32b : UInt64 := 0x85EBCA77
def prime32c : UInt64 := 0xC2B2AE3D
def prime64a : UInt64 := 0x9E3779B185EBCA87
def prime64b : UInt64 := 0xC2B2AE3D27D4EB4F
def prime64c : UInt64 := 0x165667B19E3779F9
def prime64d : UInt64 := 0x85EBCA77C2B2AE63
def prime64e : UInt64 := 0x27D4EB2F165667C5
def mixPrimeA : UInt64 := 0x165667919E3779F9
def mixPrimeB : UInt64 := 0x9FB21C651E98DF25

def secret : ByteArray := ⟨#[
  0xb8, 0xfe, 0x6c, 0x39, 0x23, 0xa4, 0x4b, 0xbe, 0x7c, 0x01, 0x81, 0x2c, 0xf7, 0x21, 0xad, 0x1c,
  0xde, 0xd4, 0x6d, 0xe9, 0x83, 0x90, 0x97, 0xdb, 0x72, 0x40, 0xa4, 0xa4, 0xb7, 0xb3, 0x67, 0x1f,
  0xcb, 0x79, 0xe6, 0x4e, 0xcc, 0xc0, 0xe5, 0x78, 0x82, 0x5a, 0xd0, 0x7d, 0xcc, 0xff, 0x72, 0x21,
  0xb8, 0x08, 0x46, 0x74, 0xf7, 0x43, 0x24, 0x8e, 0xe0, 0x35, 0x90, 0xe6, 0x81, 0x3a, 0x26, 0x4c,
  0x3c, 0x28, 0x52, 0xbb, 0x91, 0xc3, 0x00, 0xcb, 0x88, 0xd0, 0x65, 0x8b, 0x1b, 0x53, 0x2e, 0xa3,
  0x71, 0x64, 0x48, 0x97, 0xa2, 0x0d, 0xf9, 0x4e, 0x38, 0x19, 0xef, 0x46, 0xa9, 0xde, 0xac, 0xd8,
  0xa8, 0xfa, 0x76, 0x3f, 0xe3, 0x9c, 0x34, 0x3f, 0xf9, 0xdc, 0xbb, 0xc7, 0xc7, 0x0b, 0x4f, 0x1d,
  0x8a, 0x51, 0xe0, 0x4b, 0xcd, 0xb4, 0x59, 0x31, 0xc8, 0x9f, 0x7e, 0xc9, 0xd9, 0x78, 0x73, 0x64,
  0xea, 0xc5, 0xac, 0x83, 0x34, 0xd3, 0xeb, 0xc3, 0xc5, 0x81, 0xa0, 0xff, 0xfa, 0x13, 0x63, 0xeb,
  0x17, 0x0d, 0xdd, 0x51, 0xb7, 0xf0, 0xda, 0x49, 0xd3, 0x16, 0x55, 0x26, 0x29, 0xd4, 0x68, 0x9e,
  0x2b, 0x16, 0xbe, 0x58, 0x7d, 0x47, 0xa1, 0xfc, 0x8f, 0xf8, 0xb8, 0xd1, 0x7a, 0xd0, 0x31, 0xce,
  0x45, 0xcb, 0x3a, 0x8f, 0x95, 0x16, 0x04, 0x28, 0xaf, 0xd7, 0xfb, 0xca, 0xbb, 0x4b, 0x40, 0x7e]⟩

/-- The octet at an offset, zero beyond the end. -/
def octet (data : ByteArray) (offset : Nat) : UInt64 :=
  if inside : offset < data.size then data[offset].toUInt64 else 0

/-- Little-endian words. -/
def word32 (data : ByteArray) (offset : Nat) : UInt64 :=
  octet data offset ||| (octet data (offset + 1) <<< 8) ||| (octet data (offset + 2) <<< 16)
    ||| (octet data (offset + 3) <<< 24)

def word64 (data : ByteArray) (offset : Nat) : UInt64 :=
  word32 data offset ||| (word32 data (offset + 4) <<< 32)

def lowHalf (x : UInt64) : UInt64 := x &&& 0xffffffff

def highHalf (x : UInt64) : UInt64 := x >>> 32

def swapped32 (x : UInt64) : UInt64 :=
  let low : UInt64 := 0xff
  let second : UInt64 := 0xff00
  ((x &&& low) <<< 24) ||| ((x &&& second) <<< 8) ||| ((x >>> 8) &&& second)
    ||| ((x >>> 24) &&& low)

def swapped64 (x : UInt64) : UInt64 :=
  (swapped32 (lowHalf x) <<< 32) ||| swapped32 (highHalf x)

def rotated32 (x : UInt64) (count : UInt64) : UInt64 :=
  lowHalf ((x <<< count) ||| (x >>> (32 - count)))

/-- The full product. -/
def product (x y : UInt64) : Wide :=
  let p := x.toNat * y.toNat
  ⟨p.toUInt64, (p >>> 64).toUInt64⟩

/-- The halves of the full product, combined. -/
def folded (x y : UInt64) : UInt64 :=
  let p := product x y
  p.low ^^^ p.high

def avalanche64 (h : UInt64) : UInt64 :=
  let h := (h ^^^ (h >>> 33)) * prime64b
  let h := (h ^^^ (h >>> 29)) * prime64c
  h ^^^ (h >>> 32)

def avalanche (h : UInt64) : UInt64 :=
  let h := (h ^^^ (h >>> 37)) * mixPrimeA
  h ^^^ (h >>> 32)

/-- Two neighbouring words of the secret, combined. -/
def flip64 (offset : Nat) : UInt64 := word64 secret offset ^^^ word64 secret (offset + 8)

def hashEmpty : Wide := ⟨avalanche64 (flip64 64), avalanche64 (flip64 80)⟩

/-- One to three octets. -/
def hashTiny (data : ByteArray) : Wide :=
  let size := data.size
  let low := (octet data 0 <<< 16) ||| (octet data (size / 2) <<< 24) ||| octet data (size - 1)
    ||| (size.toUInt64 <<< 8)
  let high := rotated32 (swapped32 low) 13
  ⟨avalanche64 (low ^^^ (word32 secret 0 ^^^ word32 secret 4)),
    avalanche64 (high ^^^ (word32 secret 8 ^^^ word32 secret 12))⟩

/-- Four to eight octets. -/
def hashWord (data : ByteArray) : Wide :=
  let size := data.size
  let input := word32 data 0 + (word32 data (size - 4) <<< 32)
  let p := product (input ^^^ flip64 16) (prime64a + (size.toUInt64 <<< 2))
  let high := p.high + (p.low <<< 1)
  let low := p.low ^^^ (high >>> 3)
  let low := (low ^^^ (low >>> 35)) * mixPrimeB
  ⟨low ^^^ (low >>> 28), avalanche high⟩

/-- Nine to sixteen octets. -/
def hashPair (data : ByteArray) : Wide :=
  let size := data.size
  let first := word64 data 0
  let last := word64 data (size - 8)
  let p := product (first ^^^ last ^^^ flip64 32) prime64a
  let low := p.low + ((size.toUInt64 - 1) <<< 54)
  let last := last ^^^ flip64 48
  let high := p.high + (last + lowHalf last * (prime32b - 1))
  let low := low ^^^ swapped64 high
  let q := product low prime64b
  ⟨avalanche q.low, avalanche (q.high + high * prime64b)⟩

def mix16 (data : ByteArray) (offset key : Nat) : UInt64 :=
  folded (word64 data offset ^^^ word64 secret key)
    (word64 data (offset + 8) ^^^ word64 secret (key + 8))

/-- Mixes sixteen octets from either place into the sums. -/
def mix32 (sums : Wide) (data : ByteArray) (left right key : Nat) : Wide :=
  ⟨(sums.low + mix16 data left key) ^^^ (word64 data right + word64 data (right + 8)),
    (sums.high + mix16 data right (key + 16)) ^^^ (word64 data left + word64 data (left + 8))⟩

def closeSums (size : Nat) (sums : Wide) : Wide :=
  ⟨avalanche (sums.low + sums.high),
    0 - avalanche (sums.low * prime64a + sums.high * prime64d + size.toUInt64 * prime64b)⟩

/-- Seventeen to 128 octets: pairs of parts from both ends, the innermost first. -/
def hashShort (data : ByteArray) : Wide :=
  let size := data.size
  let pairs := (size - 1) / 32
  let sums := (List.range (pairs + 1)).reverse.foldl
    (fun sums i => mix32 sums data (16 * i) (size - 16 * (i + 1)) (32 * i))
    ⟨size.toUInt64 * prime64a, 0⟩
  closeSums size sums

/-- 129 to 240 octets. -/
def hashMedium (data : ByteArray) : Wide :=
  let size := data.size
  let round (key : Nat → Nat) (sums : Wide) (i : Nat) :=
    mix32 sums data (32 * i) (32 * i + 16) (key i)
  let sums := (List.range 4).foldl (round (32 * ·)) ⟨size.toUInt64 * prime64a, 0⟩
  let sums := ⟨avalanche sums.low, avalanche sums.high⟩
  let sums := (List.range' 4 (size / 32 - 4)).foldl (round (fun i => 3 + 32 * (i - 4))) sums
  closeSums size (mix32 sums data (size - 16) (size - 32) 103)

/-- The eight lanes of a long input. -/
abbrev Lanes := List UInt64

def startLanes : Lanes :=
  [prime32c, prime64a, prime64b, prime64c, prime64d, prime32b, prime64e, prime32a]

/-- Adds a stripe: each word goes to its neighbour lane, and the product of the halves of
the keyed word to its own. -/
def addStripe (data : ByteArray) (offset key : Nat) (lanes : Lanes) : Lanes :=
  let rec go (i : Nat) : Lanes → Lanes
    | x :: y :: rest =>
      let a := word64 data (offset + 8 * i)
      let b := word64 data (offset + 8 * i + 8)
      let keyedA := a ^^^ word64 secret (key + 8 * i)
      let keyedB := b ^^^ word64 secret (key + 8 * i + 8)
      (x + b + lowHalf keyedA * highHalf keyedA)
        :: (y + a + lowHalf keyedB * highHalf keyedB) :: go (i + 2) rest
    | lanes => lanes
  go 0 lanes

def scramble (lanes : Lanes) : Lanes :=
  lanes.mapIdx fun i (x : UInt64) =>
    (x ^^^ (x >>> 47) ^^^ word64 secret (128 + 8 * i)) * prime32a

def stripesPerBlock : Nat := 16

def blockSize : Nat := 1024

/-- Adds a number of stripes of a block; the key moves on by eight octets each time. -/
def addStripes (data : ByteArray) (offset count : Nat) (lanes : Lanes) : Lanes :=
  (List.range count).foldl (fun lanes i => addStripe data (offset + 64 * i) (8 * i) lanes) lanes

def merged (lanes : Lanes) (key : Nat) (start : UInt64) : UInt64 :=
  let rec go (key : Nat) (sum : UInt64) : Lanes → UInt64
    | x :: y :: rest =>
      go (key + 16) (sum + folded (x ^^^ word64 secret key) (y ^^^ word64 secret (key + 8))) rest
    | _ => sum
  avalanche (go key start lanes)

/-- More than 240 octets. -/
def hashLong (data : ByteArray) : Wide :=
  let size := data.size
  let blocks := (size - 1) / blockSize
  let lanes := (List.range blocks).foldl
    (fun lanes i => scramble (addStripes data (i * blockSize) stripesPerBlock lanes)) startLanes
  let stripes := (size - 1 - blocks * blockSize) / 64
  let lanes := addStripes data (blocks * blockSize) stripes lanes
  let lanes := addStripe data (size - 64) 121 lanes
  let size := size.toUInt64
  ⟨merged lanes 11 (size * prime64a), merged lanes 117 (~~~(size * prime64b))⟩

def hash (data : ByteArray) : Wide :=
  let size := data.size
  if size = 0 then hashEmpty
  else if size ≤ 3 then hashTiny data
  else if size ≤ 8 then hashWord data
  else if size ≤ 16 then hashPair data
  else if size ≤ 128 then hashShort data
  else if size ≤ 240 then hashMedium data
  else hashLong data

/-- A number in hexadecimal, padded with zeros. -/
def hexadecimal (width n : Nat) : String :=
  let digits := Nat.toDigits 16 n
  String.ofList (List.replicate (width - digits.length) '0' ++ digits)

/-- 32 lower-case hexadecimal digits, the high half first. -/
def Wide.text (wide : Wide) : String :=
  hexadecimal 16 wide.high.toNat ++ hexadecimal 16 wide.low.toNat

end LiveCompile.Xxh3
