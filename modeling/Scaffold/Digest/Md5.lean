/-!
# The MD5 digest

The digest of a sequence of bytes by the MD5 algorithm: the bytes are padded to blocks of 64, and
each block mixes its sixteen words into four words of state in 64 rounds. It serves as a short name
for a text and not as a safeguard.
-/

namespace Scaffold.Digest.Md5

/-- The four words of state. -/
structure State where
  a : UInt32
  b : UInt32
  c : UInt32
  d : UInt32

/-- The state before the first block. -/
def start : State := ⟨0x67452301, 0xefcdab89, 0x98badcfe, 0x10325476⟩

/-- The constant that each round adds: the first 32 binary places of the sine of its number. -/
def sines : List UInt32 :=
  [
    0xd76aa478, 0xe8c7b756, 0x242070db, 0xc1bdceee, 0xf57c0faf, 0x4787c62a, 0xa8304613,
    0xfd469501, 0x698098d8, 0x8b44f7af, 0xffff5bb1, 0x895cd7be, 0x6b901122, 0xfd987193,
    0xa679438e, 0x49b40821, 0xf61e2562, 0xc040b340, 0x265e5a51, 0xe9b6c7aa, 0xd62f105d,
    0x02441453, 0xd8a1e681, 0xe7d3fbc8, 0x21e1cde6, 0xc33707d6, 0xf4d50d87, 0x455a14ed,
    0xa9e3e905, 0xfcefa3f8, 0x676f02d9, 0x8d2a4c8a, 0xfffa3942, 0x8771f681, 0x6d9d6122,
    0xfde5380c, 0xa4beea44, 0x4bdecfa9, 0xf6bb4b60, 0xbebfbc70, 0x289b7ec6, 0xeaa127fa,
    0xd4ef3085, 0x04881d05, 0xd9d4d039, 0xe6db99e5, 0x1fa27cf8, 0xc4ac5665, 0xf4292244,
    0x432aff97, 0xab9423a7, 0xfc93a039, 0x655b59c3, 0x8f0ccc92, 0xffeff47d, 0x85845dd1,
    0x6fa87e4f, 0xfe2ce6e0, 0xa3014314, 0x4e0811a1, 0xf7537e82, 0xbd3af235, 0x2ad7d2bb,
    0xeb86d391]

/-- How far a round turns its word. -/
def shift (round : Nat) : UInt32 :=
  let row : List UInt32 :=
    if round < 16 then [7, 12, 17, 22]
    else if round < 32 then [5, 9, 14, 20]
    else if round < 48 then [4, 11, 16, 23]
    else [6, 10, 15, 21]
  row.getD (round % 4) 0

/-- Which word of the block a round takes. -/
def wordIndex (round : Nat) : Nat :=
  if round < 16 then round
  else if round < 32 then (5 * round + 1) % 16
  else if round < 48 then (3 * round + 5) % 16
  else 7 * round % 16

/-- How a round joins three words of the state. -/
def mix (round : Nat) (s : State) : UInt32 :=
  if round < 16 then (s.b &&& s.c) ||| (~~~s.b &&& s.d)
  else if round < 32 then (s.d &&& s.b) ||| (~~~s.d &&& s.c)
  else if round < 48 then s.b ^^^ s.c ^^^ s.d
  else s.c ^^^ (s.b ||| ~~~s.d)

/-- Turns a word to the left by 1 to 31 places. -/
def turnLeft (x n : UInt32) : UInt32 := (x <<< n) ||| (x >>> (32 - n))

/-- One round on the words of a block. -/
def round (words : List UInt32) (s : State) (n : Nat) : State :=
  let f := mix n s + s.a + sines.getD n 0 + words.getD (wordIndex n) 0
  ⟨s.d, s.b + turnLeft f (shift n), s.b, s.c⟩

/-- One block. -/
def block (s : State) (words : List UInt32) : State :=
  let t := (List.range 64).foldl (round words) s
  ⟨s.a + t.a, s.b + t.b, s.c + t.c, s.d + t.d⟩

/-- The words of a sequence of bytes, the lowest byte of each word first. -/
def words : List UInt8 → List UInt32
  | a :: b :: c :: d :: rest =>
    (a.toUInt32 ||| (b.toUInt32 <<< 8) ||| (c.toUInt32 <<< 16) ||| (d.toUInt32 <<< 24))
      :: words rest
  | _ => []

/-- The lowest bytes of a number, the lowest first. -/
def lowBytes : Nat → Nat → List UInt8
  | 0, _ => []
  | count + 1, n => (n % 256).toUInt8 :: lowBytes count (n / 256)

/-- The bytes with the padding that makes them whole blocks: a one, zeros, and the length in bits.
-/
def padded (bytes : List UInt8) : List UInt8 :=
  let zeros := (119 - bytes.length % 64) % 64
  bytes ++ 0x80 :: List.replicate zeros 0 ++ lowBytes 8 (8 * bytes.length)

/-- Takes the state through the given number of blocks. -/
def blocks : Nat → State → List UInt32 → State
  | 0, s, _ => s
  | count + 1, s, ws => blocks count (block s (ws.take 16)) (ws.drop 16)

/-- The sixteen bytes of the digest. -/
def digest (bytes : List UInt8) : List UInt8 :=
  let ws := words (padded bytes)
  let s := blocks (ws.length / 16) start ws
  [s.a, s.b, s.c, s.d].flatMap fun w => lowBytes 4 w.toNat

/-- The digest in lower-case hexadecimal digits. -/
def hex (bytes : List UInt8) : List Char :=
  (digest bytes).flatMap fun b => [Nat.digitChar (b.toNat / 16), Nat.digitChar (b.toNat % 16)]

end Scaffold.Digest.Md5
