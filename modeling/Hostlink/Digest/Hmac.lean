import Hostlink.Digest.Md5

/-!
# Keyed digests

The construction of RFC 2104 over MD5: a key longer than a block is digested first.
-/

namespace Hostlink.Digest

/-- The key filled up with zeros to a block of 64 octets. -/
def keyBlock (key : Bytes) : Bytes :=
  let short := if key.length > 64 then md5 key else key
  short ++ Bytes.zeros (64 - short.length)

/-- The digest of `data` under `key`. -/
def hmacMd5 (key data : Bytes) : Bytes :=
  let block := keyBlock key
  md5 (block.map (· ^^^ 0x5c) ++ md5 (block.map (· ^^^ 0x36) ++ data))

theorem length_hmacMd5 (key data : Bytes) : (hmacMd5 key data).length = 16 := length_md5 _

end Hostlink.Digest
