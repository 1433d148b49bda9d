import Hostlink.Bytes
import Hostlink.Pieces

/-!
# MD5, and what it shares with MD4

Both digests pad a message to whole blocks of 64 octets, fold a compression function over the
blocks, and write the four words of the state least significant octet first.
-/

namespace Hostlink.Digest

/-- The four words that a message is folded into. -/
structure Words where
  a : UInt32
  b : UInt32
  c : UInt32
  d : UInt32
  deriving DecidableEq, Repr

/-- The state before the first block. -/
def Words.initial : Words := ⟨0x67452301, 0xefcdab89, 0x98badcfe, 0x10325476⟩

/-- Word by word sum. -/
def Words.add (x y : Words) : Words := ⟨x.a + y.a, x.b + y.b, x.c + y.c, x.d + y.d⟩

/-- The sixteen octets of a state. -/
def Words.bytes (w : Words) : Bytes :=
  [w.a, w.b, w.c, w.d].flatMap fun x => Bytes.littleEndian 4 x.toNat

/-- The bits of a word moved `n` places to the left, those that fall out coming in on the right. -/
def rotateLeft (x : UInt32) (n : UInt32) : UInt32 := (x <<< n) ||| (x >>> (32 - n))

/-- A message with its delimiter, its zeros and the `lengthBytes` of its length in bits. -/
def padded (lengthBytes : Nat → Bytes) (message : Bytes) : Bytes :=
  let length := message.length
  message ++ [0x80] ++ Bytes.zeros ((119 - length % 64) % 64) ++ lengthBytes (length * 8)

/-- The blocks of a padded message, each as sixteen words with the least octet first. -/
def blocks (message : Bytes) : List (Array UInt32) :=
  (pieces 64 (padded (Bytes.littleEndian 8) message)).map fun block =>
    ((pieces 4 block).map fun word => UInt32.ofNat (Bytes.value word)).toArray

namespace Md5

/-- The additive constant of each round: the first 32 bits of the sine's fraction. -/
def sines : Array UInt32 := #[
  0xd76aa478, 0xe8c7b756, 0x242070db, 0xc1bdceee, 0xf57c0faf, 0x4787c62a, 0xa8304613, 0xfd469501,
  0x698098d8, 0x8b44f7af, 0xffff5bb1, 0x895cd7be, 0x6b901122, 0xfd987193, 0xa679438e, 0x49b40821,
  0xf61e2562, 0xc040b340, 0x265e5a51, 0xe9b6c7aa, 0xd62f105d, 0x02441453, 0xd8a1e681, 0xe7d3fbc8,
  0x21e1cde6, 0xc33707d6, 0xf4d50d87, 0x455a14ed, 0xa9e3e905, 0xfcefa3f8, 0x676f02d9, 0x8d2a4c8a,
  0xfffa3942, 0x8771f681, 0x6d9d6122, 0xfde5380c, 0xa4beea44, 0x4bdecfa9, 0xf6bb4b60, 0xbebfbc70,
  0x289b7ec6, 0xeaa127fa, 0xd4ef3085, 0x04881d05, 0xd9d4d039, 0xe6db99e5, 0x1fa27cf8, 0xc4ac5665,
  0xf4292244, 0x432aff97, 0xab9423a7, 0xfc93a039, 0x655b59c3, 0x8f0ccc92, 0xffeff47d, 0x85845dd1,
  0x6fa87e4f, 0xfe2ce6e0, 0xa3014314, 0x4e0811a1, 0xf7537e82, 0xbd3af235, 0x2ad7d2bb, 0xeb86d391]

/-- How far each round turns, four rounds repeating four times per pass. -/
def turns : Array UInt32 := #[7, 12, 17, 22, 5, 9, 14, 20, 4, 11, 16, 23, 6, 10, 15, 21]

/-- One round: the mixing function and the word taken depend on the pass. -/
def round (block : Array UInt32) (w : Words) (i : Nat) : Words :=
  let (f, word) :=
    match i / 16 with
    | 0 => ((w.b &&& w.c) ||| (~~~w.b &&& w.d), i)
    | 1 => ((w.d &&& w.b) ||| (~~~w.d &&& w.c), (5 * i + 1) % 16)
    | 2 => (w.b ^^^ w.c ^^^ w.d, (3 * i + 5) % 16)
    | _ => (w.c ^^^ (w.b ||| ~~~w.d), 7 * i % 16)
  let sum := w.a + f + sines[i]?.getD 0 + block[word]?.getD 0
  ⟨w.d, w.b + rotateLeft sum (turns[i / 16 * 4 + i % 4]?.getD 0), w.b, w.c⟩

/-- Folds one block into the state. -/
def compress (w : Words) (block : Array UInt32) : Words :=
  w.add ((List.range 64).foldl (round block) w)

end Md5

/-- The MD5 digest of a message. -/
def md5 (message : Bytes) : Bytes :=
  ((blocks message).foldl Md5.compress Words.initial).bytes

theorem length_md5 (message : Bytes) : (md5 message).length = 16 := by
  simp only [md5, Words.bytes, List.flatMap_cons, List.flatMap_nil, List.length_append,
    Bytes.length_littleEndian, List.length_nil]

end Hostlink.Digest
