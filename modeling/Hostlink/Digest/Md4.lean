import Hostlink.Digest.Md5

/-!
# MD4

Three passes of sixteen rounds over the block, each with a mixing function, a constant and an
order of the words of its own.
-/

namespace Hostlink.Digest

namespace Md4

/-- How far each round turns, four rounds repeating four times per pass. -/
def turns : Array UInt32 := #[3, 7, 11, 19, 3, 5, 9, 13, 3, 9, 11, 15]

/-- The order in which the last pass takes the words. -/
def lastOrder : Array Nat := #[0, 8, 4, 12, 2, 10, 6, 14, 1, 9, 5, 13, 3, 11, 7, 15]

/-- One round: the mixing function, the constant and the word taken depend on the pass. -/
def round (block : Array UInt32) (w : Words) (i : Nat) : Words :=
  let k := i % 16
  let (f, constant, word) :=
    match i / 16 with
    | 0 => ((w.b &&& w.c) ||| (~~~w.b &&& w.d), (0 : UInt32), k)
    | 1 => ((w.b &&& w.c) ||| (w.b &&& w.d) ||| (w.c &&& w.d), (0x5a827999 : UInt32),
        k % 4 * 4 + k / 4)
    | _ => (w.b ^^^ w.c ^^^ w.d, (0x6ed9eba1 : UInt32), lastOrder[k]?.getD 0)
  let sum := w.a + f + constant + block[word]?.getD 0
  ⟨w.d, rotateLeft sum (turns[i / 16 * 4 + i % 4]?.getD 0), w.b, w.c⟩

/-- Folds one block into the state. -/
def compress (w : Words) (block : Array UInt32) : Words :=
  w.add ((List.range 48).foldl (round block) w)

end Md4

/-- The MD4 digest of a message. -/
def md4 (message : Bytes) : Bytes :=
  ((blocks message).foldl Md4.compress Words.initial).bytes

end Hostlink.Digest
