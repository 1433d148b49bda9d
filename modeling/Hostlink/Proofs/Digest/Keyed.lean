import Hostlink.Digest.Hmac

/-!
# The keyed digest by its definition

RFC 2104 makes a keyed digest of any digest that takes its messages in blocks. It says which octet of
the key stands at each place of a block, and which octet is combined with it. `hmacMd5` fills a block
instead, and over MD5 the two come to the same, `hmacMd5_eq`.
-/

namespace Hostlink.Digest

section Definition

variable (digest : Bytes → Bytes) (size : Nat) (key : Bytes)

/-- The octet of a key at a place of a block. A key that is longer than a block is digested first, and
behind the key there are zeros. -/
def keyOctet (place : Nat) : UInt8 :=
  let short := if size < key.length then digest key else key
  short[place]?.getD 0

/-- A block of the key's octets, each of them combined with the same one. -/
def keyPad (octet : UInt8) : Bytes :=
  (List.range size).map fun place => keyOctet digest size key place ^^^ octet

/-- **The keyed digest of RFC 2104**, over a digest with blocks of this size. -/
def hmac (text : Bytes) : Bytes :=
  digest (keyPad digest size key 0x5c ++ digest (keyPad digest size key 0x36 ++ text))

end Definition

/-- A block that is filled has the key's octets at their places. -/
theorem keyBlock_eq (key : Bytes) : keyBlock key = (List.range 64).map (keyOctet md5 64 key) := by
  obtain ⟨short, same⟩ : ∃ short, (if key.length > 64 then md5 key else key) = short := ⟨_, rfl⟩
  have few : short.length ≤ 64 := by
    rw [← same]
    split
    · rw [length_md5]
      decide
    · omega
  have octets : keyOctet md5 64 key = fun place => short[place]?.getD 0 := by
    funext place
    rw [keyOctet, ← same]
  rw [keyBlock, same, octets]
  apply List.ext_getElem
  · rw [List.length_append, Bytes.zeros, List.length_replicate, List.length_map, List.length_range]
    omega
  · intro place _ _
    rw [List.getElem_map, List.getElem_range, List.getElem_append]
    split
    next inside => rw [List.getElem?_eq_getElem inside, Option.getD_some]
    next beyond =>
      rw [List.getElem?_eq_none (Nat.le_of_not_lt beyond), Option.getD_none]
      exact List.getElem_replicate _

/-- **The keyed digest is that of RFC 2104** over MD5, whose blocks have 64 octets. -/
theorem hmacMd5_eq (key text : Bytes) : hmacMd5 key text = hmac md5 64 key text := by
  have pad (octet : UInt8) : (keyBlock key).map (· ^^^ octet) = keyPad md5 64 key octet := by
    rw [keyBlock_eq, List.map_map]
    rfl
  rw [hmacMd5, pad, pad, hmac]

/-- The first of the test vectors of RFC 2104. -/
example : hmac md5 64 (List.replicate 16 0x0b) [0x48, 0x69, 0x20, 0x54, 0x68, 0x65, 0x72, 0x65] =
    [0x92, 0x94, 0x72, 0x7a, 0x36, 0x38, 0xbb, 0x1c, 0x13, 0xf4, 0x8e, 0xf8, 0x15, 0x8b, 0xfc,
      0x9d] := by
  decide +kernel

end Hostlink.Digest
