import Hostlink.Proofs.Bytes.Checked
import Hostlink.WinRm.Script

/-!
# Pieces by their offsets

A text is cut into pieces by taking them off its front, one after the other. By offsets the same is
done with the `starts` of the pieces, steps of the size from zero on as long as they lie within the
text: a piece goes from its start as far as the size, or to the end of the text, `pieces_eq_map_starts`.

The end of a piece is a sum, which may be too large for a word: a size may be the largest number that a
word holds. But a text takes up no more than half of the numbers of a word. So the first piece begins
at zero, where nothing is added to the size, and where there is a second one the size is less than the
text is long, `sliceAt?_of_mem_starts`.
-/

namespace Hostlink.WinRm

/-! ## Starts -/

/-- The offsets at which the pieces of a text begin. -/
def starts (size length : Nat) : List Nat := List.range' 0 (pieceCount size length) size

theorem starts_of_pos {size length : Nat} (positive : 0 < size) (inhabited : 0 < length) :
    starts size length = 0 :: (starts size (length - size)).map (size + ·) := by
  rw [starts, pieceCount_of_pos positive inhabited, List.range'_succ, starts, List.map_add_range',
    Nat.zero_add, Nat.add_zero]

/-- The starts are the multiples of the size that lie within the text. -/
theorem mem_starts_iff {size length start : Nat} (positive : 0 < size) :
    start ∈ starts size length ↔ size ∣ start ∧ start < length := by
  have within (i : Nat) : i < pieceCount size length ↔ size * i < length := by
    rw [pieceCount, ← Nat.succ_le_iff, Nat.le_div_iff_mul_le positive, Nat.succ_mul, Nat.mul_comm]
    omega
  simp only [starts, List.mem_range', Nat.zero_add, within]
  constructor
  · rintro ⟨i, inside, rfl⟩
    exact ⟨Nat.dvd_mul_right size i, inside⟩
  · rintro ⟨⟨i, rfl⟩, inside⟩
    exact ⟨i, inside, rfl⟩

/-- **The pieces of a list are what stands behind their starts**, up to the size. By induction on the
pieces: those behind the first one begin a size later. -/
theorem pieces_eq_map_starts {α : Type} (size : Nat) (xs : List α) :
    pieces size xs =
      (starts (max size 1) xs.length).map fun start => (xs.drop start).take (max size 1) := by
  have positive : 0 < max size 1 := Nat.le_max_right size 1
  fun_induction pieces size xs with
  | case1 xs h =>
    rw [List.isEmpty_iff.mp h, starts, List.length_nil, pieceCount_zero positive]
    rfl
  | case2 xs h ih =>
    have some : xs ≠ [] := fun none => h (List.isEmpty_iff.mpr none)
    rw [starts_of_pos positive (List.length_pos_iff.mpr some), List.map_cons, List.map_map,
      List.drop_zero, ih, List.length_drop]
    congr 1
    refine List.map_congr_left fun start _ => ?_
    rw [Function.comp_apply, List.drop_drop]

/-! ## Slices -/

/-- The piece that begins at an offset, if its end can be told in a word of that many bits and it can
be cut out of the text. -/
def sliceAt? (bits size : Nat) (text : Bytes) (start : Nat) : Option Bytes := do
  let stop ← sum? bits start size
  Utf8.between? text start (min stop text.length)

/-- The pieces that are cut out of a text by their offsets, if every one of them can be. -/
def slices? (bits size : Nat) (text : Bytes) : Option (List Bytes) :=
  (starts (max size 1) text.length).mapM (sliceAt? bits (max size 1) text)

/-- A piece can be cut out, if the size is a word and the text takes up less than half of what a word
can count. -/
theorem sliceAt?_of_mem_starts {bits size : Nat} (positive : 0 < size) (word : size < Nat.pow 2 bits)
    {text : Bytes} (ascii : ∀ b ∈ text, b < 0x80) (half : 2 * text.length < Nat.pow 2 bits)
    {start : Nat} (among : start ∈ starts size text.length) :
    sliceAt? bits size text start = some ((text.drop start).take size) := by
  obtain ⟨multiple, within⟩ := (mem_starts_iff positive).mp among
  have room : start + size < Nat.pow 2 bits := by
    rcases Nat.eq_zero_or_pos start with rfl | later
    · omega
    · have : size ≤ start := Nat.le_of_dvd later multiple
      omega
  have part : (text.drop start).take (min (start + size) text.length - start) =
      (text.drop start).take size := by
    rw [List.take_eq_take_iff, List.length_drop]
    omega
  rw [sliceAt?, sum?_of_lt room, Option.bind_eq_bind, Option.bind_some,
    Utf8.between?_of_ascii ascii (by omega) (Nat.min_le_right _ _), part]

theorem mapM_eq_some_map {α β : Type} {f : α → Option β} {g : α → β} {xs : List α}
    (each : ∀ x ∈ xs, f x = some (g x)) : xs.mapM f = some (xs.map g) := by
  induction xs with
  | nil => rfl
  | cons x xs ih =>
    rw [List.forall_mem_cons] at each
    rw [List.mapM_cons, each.1, ih each.2]
    rfl

/-- **Every piece can be cut out**, and what is cut out are the pieces. -/
theorem slices?_eq_some_pieces {bits size : Nat} (word : size < Nat.pow 2 bits) {text : Bytes}
    (ascii : ∀ b ∈ text, b < 0x80) (half : 2 * text.length < Nat.pow 2 bits) :
    slices? bits size text = some (pieces size text) := by
  rw [slices?, pieces_eq_map_starts]
  refine mapM_eq_some_map fun start among => ?_
  have inside : start < text.length := ((mem_starts_iff (Nat.le_max_right size 1)).mp among).2
  exact sliceAt?_of_mem_starts (Nat.le_max_right size 1) (by omega) ascii half among

/-! ## Texts -/

/-- A text takes up as many octets as its encoding has. -/
theorem utf8ByteSize_eq_length_encode (text : String) :
    text.utf8ByteSize = (Utf8.encode text).length := by
  obtain ⟨cs, rfl⟩ : ∃ cs, text = .ofList cs := ⟨text.toList, String.ofList_toList.symm⟩
  rw [← String.size_toByteArray, String.toByteArray_ofList, List.utf8Encode, List.size_toByteArray,
    Utf8.encode, String.toList_ofList]

/-- A text in ASCII has one octet for each character. -/
theorem encode_of_ascii {cs : List Char} (ascii : ∀ c ∈ cs, c.toNat < 0x80) :
    Utf8.encode (.ofList cs) = cs.map fun c => c.val.toUInt8 := by
  rw [Utf8.encode, String.toList_ofList]
  induction cs with
  | nil => rfl
  | cons c cs ih =>
    rw [List.forall_mem_cons] at ascii
    have small : c.val ≤ 127 := Nat.le_of_lt_succ ascii.1
    have single := String.utf8EncodeChar_eq_singleton (Char.utf8Size_eq_one_iff.mpr small)
    rw [List.flatMap_cons, single, ih ascii.2, List.map_cons, List.singleton_append]

/-- The octets of a text in ASCII are in ASCII. -/
theorem octet_of_ascii {text : String} (ascii : ∀ c ∈ text.toList, c.toNat < 0x80) :
    ∀ b ∈ Utf8.encode text, b < 0x80 := by
  rw [← String.ofList_toList (s := text), encode_of_ascii ascii, List.forall_mem_map]
  intro c inside
  have small : c.toNat < 0x80 := ascii c inside
  rw [UInt8.lt_iff_toNat_lt, UInt32.toNat_toUInt8]
  exact Nat.lt_of_le_of_lt (Nat.mod_le _ _) small

theorem utf8ByteSize_of_ascii {cs : List Char} (ascii : ∀ c ∈ cs, c.toNat < 0x80) :
    (String.ofList cs).utf8ByteSize = cs.length := by
  rw [utf8ByteSize_eq_length_encode, encode_of_ascii ascii, List.length_map]

/-- The pieces of a text in ASCII are in ASCII. -/
theorem ascii_of_mem_pieces {size : Nat} {cs piece : List Char} (ascii : ∀ c ∈ cs, c.toNat < 0x80)
    (among : piece ∈ pieces size cs) : ∀ c ∈ piece, c.toNat < 0x80 := fun c inside =>
  ascii c (flatten_pieces size cs ▸ List.mem_flatten.mpr ⟨piece, among, inside⟩)

/-- **An even split of a text** into pieces of a size: put together they are the text, none is empty,
every piece but the last has the size and the last has no more, and there are no more of them than it
takes. -/
structure IsEvenSplit (size : Nat) (text : String) (chunks : List String) : Prop where
  joined : String.join chunks = text
  inhabited : ∀ chunk ∈ chunks, chunk ≠ ""
  short : ∀ chunk ∈ chunks, chunk.utf8ByteSize ≤ size
  full : ∀ chunk ∈ chunks.dropLast, chunk.utf8ByteSize = size
  count : chunks.length = (text.utf8ByteSize + size - 1) / size

theorem isEvenSplit_splitChunks {size : Nat} {text : String}
    (ascii : ∀ c ∈ text.toList, c.toNat < 0x80) :
    IsEvenSplit (max size 1) text (splitChunks size text) where
  joined := by
    rw [← String.toList_inj, String.toList_join, splitChunks, List.flatMap_map]
    simp only [String.toList_ofList]
    exact List.flatten_eq_flatMap.symm.trans (flatten_pieces size text.toList)
  inhabited := by
    rw [splitChunks, List.forall_mem_map]
    intro piece among none
    refine (forall_mem_pieces size text.toList piece among).1 ?_
    rw [← String.toList_ofList (l := piece), none, String.toList_empty]
  short := by
    rw [splitChunks, List.forall_mem_map]
    intro piece among
    rw [utf8ByteSize_of_ascii (ascii_of_mem_pieces ascii among)]
    exact (forall_mem_pieces size text.toList piece among).2
  full := by
    rw [splitChunks, ← List.map_dropLast, List.forall_mem_map]
    intro piece among
    rw [utf8ByteSize_of_ascii (ascii_of_mem_pieces ascii (List.dropLast_subset _ among))]
    exact length_of_mem_dropLast_pieces size text.toList piece among
  count := by
    have size : text.utf8ByteSize = text.toList.length := by
      rw [← utf8ByteSize_of_ascii ascii, String.ofList_toList]
    rw [splitChunks, List.length_map, length_pieces, size, pieceCount]

/-- Cutting a text in ASCII and cutting its octets are the same. -/
theorem pieces_encode {size : Nat} {text : String} (ascii : ∀ c ∈ text.toList, c.toNat < 0x80) :
    pieces size (Utf8.encode text) = (splitChunks size text).map Utf8.encode := by
  conv =>
    lhs
    rw [← String.ofList_toList (s := text), encode_of_ascii ascii]
  rw [pieces_map, splitChunks, List.map_map]
  exact List.map_congr_left fun piece among => (encode_of_ascii (ascii_of_mem_pieces ascii among)).symm

/-- **A text in ASCII is split evenly**, whatever the size, where zero counts as one. The same split is
made by offsets, with no slice that leaves the text and no sum that a word cannot hold, for every size
that is a word and every text that takes up less than half of what a word can count. -/
theorem splitChunks_even {bits size : Nat} {text : String}
    (ascii : ∀ c ∈ text.toList, c.toNat < 0x80) (word : size < Nat.pow 2 bits)
    (half : 2 * text.utf8ByteSize < Nat.pow 2 bits) :
    IsEvenSplit (max size 1) text (splitChunks size text) ∧
      slices? bits size (Utf8.encode text) = some ((splitChunks size text).map Utf8.encode) := by
  rw [utf8ByteSize_eq_length_encode] at half
  refine ⟨isEvenSplit_splitChunks ascii, ?_⟩
  rw [slices?_eq_some_pieces word (octet_of_ascii ascii) half, pieces_encode ascii]

/-- The largest size that a word of 64 bits holds, and the least. -/
theorem splitChunks_even_extremes :
    let text := "abcdefghij"
    (IsEvenSplit 18446744073709551615 text (splitChunks 18446744073709551615 text) ∧
      slices? 64 18446744073709551615 (Utf8.encode text) =
        some ((splitChunks 18446744073709551615 text).map Utf8.encode)) ∧
      IsEvenSplit 1 text (splitChunks 0 text) ∧
        slices? 64 0 (Utf8.encode text) = some ((splitChunks 0 text).map Utf8.encode) := by
  intro text
  have ascii : ∀ c ∈ text.toList, c.toNat < 0x80 := by
    have letters : text.toList.all (·.toNat < 0x80) = true := by decide
    simpa using letters
  have half : 2 * text.utf8ByteSize < Nat.pow 2 64 := by decide
  have largest : 18446744073709551615 < Nat.pow 2 64 := by decide
  have least : 0 < Nat.pow 2 64 := by decide
  exact ⟨splitChunks_even ascii largest half, splitChunks_even ascii least half⟩

/-- The last piece holds what is left. -/
example : splitChunks 4 "abcdefghij" = ["abcd", "efgh", "ij"] := by cbv

end Hostlink.WinRm
