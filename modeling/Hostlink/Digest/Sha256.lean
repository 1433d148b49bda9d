import Hostlink.Digest.Md5

/-!
# SHA-256

The digest of FIPS 180-4, which names a public key by the digest of its wire form.
-/

namespace Hostlink.Digest

namespace Sha256

/-- The additive constant of each round. -/
def constants : Array UInt32 := #[
  0x428a2f98, 0x71374491, 0xb5c0fbcf, 0xe9b5dba5, 0x3956c25b, 0x59f111f1, 0x923f82a4, 0xab1c5ed5,
  0xd807aa98, 0x12835b01, 0x243185be, 0x550c7dc3, 0x72be5d74, 0x80deb1fe, 0x9bdc06a7, 0xc19bf174,
  0xe49b69c1, 0xefbe4786, 0x0fc19dc6, 0x240ca1cc, 0x2de92c6f, 0x4a7484aa, 0x5cb0a9dc, 0x76f988da,
  0x983e5152, 0xa831c66d, 0xb00327c8, 0xbf597fc7, 0xc6e00bf3, 0xd5a79147, 0x06ca6351, 0x14292967,
  0x27b70a85, 0x2e1b2138, 0x4d2c6dfc, 0x53380d13, 0x650a7354, 0x766a0abb, 0x81c2c92e, 0x92722c85,
  0xa2bfe8a1, 0xa81a664b, 0xc24b8b70, 0xc76c51a3, 0xd192e819, 0xd6990624, 0xf40e3585, 0x106aa070,
  0x19a4c116, 0x1e376c08, 0x2748774c, 0x34b0bcb5, 0x391c0cb3, 0x4ed8aa4a, 0x5b9cca4f, 0x682e6ff3,
  0x748f82ee, 0x78a5636f, 0x84c87814, 0x8cc70208, 0x90befffa, 0xa4506ceb, 0xbef9a3f7, 0xc67178f2]

/-- The state before the first block. -/
def initial : Array UInt32 := #[
  0x6a09e667, 0xbb67ae85, 0x3c6ef372, 0xa54ff53a, 0x510e527f, 0x9b05688c, 0x1f83d9ab, 0x5be0cd19]

/-- The bits of a word moved `n` places to the right, those that fall out coming in on the left. -/
def rotateRight (x : UInt32) (n : UInt32) : UInt32 := (x >>> n) ||| (x <<< (32 - n))

/-- The word at a place, which is always in range. -/
def word (ws : Array UInt32) (i : Nat) : UInt32 := ws[i]?.getD 0

/-- The sixty-four words that a block is stretched to. -/
def schedule (block : Array UInt32) : Array UInt32 :=
  (List.range 48).foldl (fun ws k =>
    let i := k + 16
    let x := word ws (i - 15)
    let y := word ws (i - 2)
    let s0 := rotateRight x 7 ^^^ rotateRight x 18 ^^^ (x >>> 3)
    let s1 := rotateRight y 17 ^^^ rotateRight y 19 ^^^ (y >>> 10)
    ws.push (word ws (i - 16) + s0 + word ws (i - 7) + s1)) block

/-- One round over the eight words of the state. -/
def round (ws : Array UInt32) (s : Array UInt32) (i : Nat) : Array UInt32 :=
  let a := word s 0
  let e := word s 4
  let s1 := rotateRight e 6 ^^^ rotateRight e 11 ^^^ rotateRight e 25
  let choice := (e &&& word s 5) ^^^ (~~~e &&& word s 6)
  let t1 := word s 7 + s1 + choice + word constants i + word ws i
  let s0 := rotateRight a 2 ^^^ rotateRight a 13 ^^^ rotateRight a 22
  let majority := (a &&& word s 1) ^^^ (a &&& word s 2) ^^^ (word s 1 &&& word s 2)
  #[t1 + s0 + majority, a, word s 1, word s 2, word s 3 + t1, e, word s 5, word s 6]

/-- Folds one block into the state. -/
def compress (s : Array UInt32) (block : Array UInt32) : Array UInt32 :=
  let mixed := (List.range 64).foldl (round (schedule block)) s
  ((List.range 8).map fun i => word s i + word mixed i).toArray

end Sha256

/-- An integer of a fixed width, most significant octet first. -/
def bigEndian (width n : Nat) : Bytes := (Bytes.littleEndian width n).reverse

/-- The SHA-256 digest of a message. -/
def sha256 (message : Bytes) : Bytes :=
  let blocks := (pieces 64 (padded (bigEndian 8) message)).map fun block =>
    ((pieces 4 block).map fun w => UInt32.ofNat (Bytes.value w.reverse)).toArray
  (blocks.foldl Sha256.compress Sha256.initial).toList.flatMap fun x => bigEndian 4 x.toNat

end Hostlink.Digest
