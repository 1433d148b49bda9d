import Mathlib.Data.List.Forall2
import Hostlink.Proofs.WinRm.Effect
import Hostlink.Proofs.WinRm.ScriptText

/-!
# What a plan delivers

A plan brings the text of a command to the target, in one line or in pieces. `Plan.Delivers` says
what has to be found in the plan for that, in terms of what can be read from it: from the one line
the text itself, and from the pieces, each on its own, octets which together are the text in UTF-16.
How the plan was made does not occur in it.

The pieces are cut from the base64 of the whole text, and where a cut falls in the text is nothing to
rely on: the limit counts the octets of UTF-8, the pieces those of UTF-16, and a cut may come between
the halves of a pair. What makes a piece readable on its own is that 4000 characters of base64 are
those of 3000 octets, `Effect.chunks_ofScript`. So the pieces are as good as pieces of the octets,
and what is said of each of them is said of the octets that it was made from.
-/

namespace Hostlink.WinRm

/-! ## Pieces -/

/-- **A piece that can be read on its own**, as these octets: groups of base64, some but no more than
4000 characters of them, in the one spelling that base64 has for the octets. -/
structure IsPiece (chunk : String) (content : Bytes) : Prop where
  inhabited : chunk ≠ ""
  short : chunk.length ≤ 4000
  groups : chunk.length % 4 = 0
  spelled : Base64.Spells chunk.toList content
  read : Base64.decode (Utf8.encode chunk) = .ok content

/-- **A piece with more behind it**: it has all its characters, and none of them is padding. -/
structure IsFull (chunk : String) : Prop where
  length : chunk.length = 4000
  unpadded : '=' ∉ chunk.toList

theorem length_chunk (content : Bytes) :
    (String.ofList (Base64.encode content)).length = (content.length + 2) / 3 * 4 := by
  rw [String.length_ofList, Base64.length_encode]

theorem isPiece_encode {content : Bytes} (some : content ≠ []) (short : content.length ≤ 3000) :
    IsPiece (.ofList (Base64.encode content)) content where
  inhabited none := by
    have length := length_chunk content
    have := List.length_pos_iff.mpr some
    rw [none, String.length_empty] at length
    omega
  short := by
    rw [length_chunk]
    omega
  groups := by
    rw [length_chunk, Nat.mul_mod_left]
  spelled := by
    rw [String.toList_ofList]
    exact Base64.spells_encode content
  read := Base64.decode_encode content

theorem isFull_encode {content : Bytes} (full : content.length = 3000) :
    IsFull (.ofList (Base64.encode content)) where
  length := by
    rw [length_chunk, full]
  unpadded := by
    rw [String.toList_ofList]
    exact Base64.sign_not_mem_encode (by rw [full])

/-! ## Plans -/

/-- **What a plan has to bring to the target**: one line from whose payload the text is read, or
pieces that are read one by one as the octets of the text. Only the last piece may have less than all
its characters, and only an empty text has no pieces. -/
def Plan.Delivers (text : String) : Plan → Prop
  | .single line => ∃ payload, line = "powershell -encodedcommand " ++ payload ∧
      decodeScript payload = .ok text
  | .staged script => ∃ contents, List.Forall₂ IsPiece script.chunks contents ∧
      (∀ chunk ∈ script.chunks.dropLast, IsFull chunk) ∧
      Utf16.Spells contents.flatten text.toList ∧ (script.chunks = [] ↔ text = "")

theorem isForced_iff {c : Command} :
    c.isForced = true ↔ c.hints.lookup "force_split" = some (.bool true) := by
  rw [Command.isForced, Command.forceSplit]
  split
  next forced => exact iff_of_true rfl forced
  next other => exact iff_of_false Bool.false_ne_true other

/-- A script that is put together from its pieces is the script that was cut. -/
theorem StagedScript.delivers_ofScript (id text : String) :
    (Plan.staged (ofScript id text)).Delivers text := by
  refine ⟨pieces 3000 (Utf16.encode text), ?_, ?_, ?_, ?_⟩
  · rw [Effect.chunks_ofScript, List.forall₂_map_left_iff, List.forall₂_same]
    intro content among
    obtain ⟨some, short⟩ := forall_mem_pieces 3000 (Utf16.encode text) content among
    exact isPiece_encode some short
  · rw [Effect.chunks_ofScript, ← List.map_dropLast, List.forall_mem_map]
    intro content among
    exact isFull_encode (length_of_mem_dropLast_pieces 3000 (Utf16.encode text) content among)
  · rw [flatten_pieces, Utf16.spells_iff, String.ofList_toList]
  · rw [Effect.chunks_ofScript, List.map_eq_nil_iff, pieces_eq_nil_iff, Utf16.encode_eq_nil_iff]

/-- **Every plan delivers the text of its command**, exactly. It is staged if the text has more than
2000 octets or the hint `force_split` is the value true, and otherwise it is one line. -/
theorem plan_delivers (id : String) (c : Command) :
    ((∃ script, Plan.ofCommand id c = .staged script) ↔
      2000 < c.text.utf8ByteSize ∨ c.hints.lookup "force_split" = some (.bool true)) ∧
    (Plan.ofCommand id c).Delivers c.text := by
  rw [← isForced_iff, Plan.ofCommand]
  split
  next fits =>
    refine ⟨iff_of_false ?_ ?_, encodeScript c.text, rfl, decodeScript_eq_ok_iff.mpr rfl⟩
    · rintro ⟨script, same⟩
      cases same
    · rintro (long | forced)
      · exact Nat.not_lt.mpr fits.1 long
      · exact Bool.false_ne_true (fits.2.symm.trans forced)
  next unfit =>
    refine ⟨iff_of_true ⟨_, rfl⟩ ?_, StagedScript.delivers_ofScript id c.text⟩
    by_cases short : c.text.utf8ByteSize ≤ 2000
    · exact .inr (eq_true_of_ne_false fun free => unfit ⟨short, free⟩)
    · exact .inl (Nat.lt_of_not_le short)

end Hostlink.WinRm
