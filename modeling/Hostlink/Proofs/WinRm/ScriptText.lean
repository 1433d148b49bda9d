import Hostlink.Proofs.Bytes.Grammar
import Hostlink.Proofs.Bytes.Surrogates
import Hostlink.WinRm.Script

/-!
# Encoded scripts

Scripts and their encoded forms are told by each other, and there is nothing between the two: a text
is the encoded form of one script, which is then read from it, or it is `Unreadable`, and then
reading says so.

`decodeScript_eq_ok_iff` is the one direction; the other, `unreadable_iff`, goes through both layers,
and names for a text that is no encoded form the layer that it fails at and what is wrong there.
-/

namespace Hostlink.WinRm

/-- **What can be wrong with an encoded script**: its base64, the number of its octets, or a half of a
pair among its units. -/
inductive Unreadable : List Char → Prop
  | malformed {text : List Char} (wrong : Base64.Malformed text) : Unreadable text
  | odd {text : List Char} {bytes : Bytes} (spelled : Base64.Spells text bytes)
      (odd : bytes.length % 2 = 1) : Unreadable text
  | lone {text : List Char} {bytes : Bytes} (spelled : Base64.Spells text bytes)
      (lone : Utf16.Lone (Utf16.words bytes)) : Unreadable text

theorem decode_eq_ok_iff {encoded : String} {bytes : Bytes} :
    Base64.decode (Utf8.encode encoded) = .ok bytes ↔ encoded.toList = Base64.encode bytes := by
  rw [← Base64.decode_eq_ok_iff, String.ofList_toList]

/-- Reading ends with a script, or says that the encoding is wrong. -/
theorem decodeScript_cases (encoded : String) :
    (∃ script, decodeScript encoded = .ok script) ∨
      ∃ reason, decodeScript encoded = .error (.encoding reason) := by
  unfold decodeScript
  split
  next fault _ => exact .inr ⟨_, rfl⟩
  next bytes _ =>
    split
    next fault _ => exact .inr ⟨_, rfl⟩
    next script _ => exact .inl ⟨script, rfl⟩

/-- **Reading inverts writing**, and reads nothing that was not written. -/
theorem decodeScript_eq_ok_iff {encoded script : String} :
    decodeScript encoded = .ok script ↔ encoded = encodeScript script := by
  constructor
  · intro h
    unfold decodeScript at h
    split at h
    next => cases h
    next bytes inner =>
      split at h
      next => cases h
      next script' outer =>
        cases h
        obtain rfl := Utf16.decode_eq_ok_iff.mp outer
        exact String.toList_inj.mp (by rw [decode_eq_ok_iff.mp inner, encodeScript, String.toList_ofList])
  · rintro rfl
    have inner : Base64.decode (Utf8.encode (encodeScript script)) = .ok (Utf16.encode script) :=
      decode_eq_ok_iff.mpr String.toList_ofList
    have outer : Utf16.decode (Utf16.encode script) = .ok script := Utf16.decode_encode script
    rw [decodeScript, inner]
    simp only [outer]

/-- The encoded form of a script, by the rules of both layers. -/
theorem eq_encodeScript_iff {encoded script : String} :
    encoded = encodeScript script ↔
      ∃ bytes, Base64.Spells encoded.toList bytes ∧ Utf16.Spells bytes script.toList := by
  rw [encodeScript, ← String.toList_inj, String.toList_ofList]
  constructor
  · intro h
    exact ⟨Utf16.encode script, Base64.spells_iff.mpr h,
      Utf16.spells_iff.mpr (by rw [String.ofList_toList])⟩
  · rintro ⟨bytes, spelled, units⟩
    rw [Base64.spells_iff.mp spelled, Utf16.spells_iff.mp units, String.ofList_toList]

/-- **What is no script's encoded form is wrong in one of the ways listed**, and nothing else is. -/
theorem unreadable_iff {encoded : String} :
    Unreadable encoded.toList ↔ ∀ script, encoded ≠ encodeScript script := by
  have form (script : String) : encoded = encodeScript script ↔
      encoded.toList = Base64.encode (Utf16.encode script) := by
    rw [encodeScript, ← String.toList_inj, String.toList_ofList]
  simp only [ne_eq, form]
  generalize encoded.toList = text
  have octets {bytes : Bytes} (spelled : Base64.Spells text bytes)
      (wrong : bytes.length % 2 = 1 ∨ Utf16.Lone (Utf16.words bytes)) (script : String) :
      text ≠ Base64.encode (Utf16.encode script) := by
    intro same
    rw [Base64.spells_iff.mp spelled] at same
    exact Utf16.not_encode_iff.mpr wrong script (Base64.encode_injective same)
  constructor
  · intro wrong
    cases wrong with
    | malformed wrong => exact fun script => Base64.malformed_iff.mp wrong _
    | odd spelled odd => exact octets spelled (.inl odd)
    | lone spelled lone => exact octets spelled (.inr lone)
  · intro none
    by_cases malformed : Base64.Malformed text
    · exact .malformed malformed
    · obtain ⟨bytes, spelled⟩ := Base64.exists_spells malformed
      have wrong : ∀ script, bytes ≠ Utf16.encode script := by
        rintro script rfl
        exact none script (Base64.spells_iff.mp spelled)
      rcases Utf16.not_encode_iff.mp wrong with odd | lone
      · exact .odd spelled odd
      · exact .lone spelled lone

/-- **Encoding and reading are inverse to each other.** Every script is read back from its encoded
form. A text reads as a script exactly if it is its encoded form, by the rules of base64 and UTF-16
alike. Any other text is wrong in one of the ways listed, and is refused as wrongly encoded. -/
theorem encodeScript_bijective :
    (∀ script, decodeScript (encodeScript script) = .ok script) ∧
    ∀ encoded : String,
      (∀ script, decodeScript encoded = .ok script ↔ encoded = encodeScript script) ∧
      (∀ script, encoded = encodeScript script ↔
        ∃ bytes, Base64.Spells encoded.toList bytes ∧ Utf16.Spells bytes script.toList) ∧
      (Unreadable encoded.toList ↔ ∀ script, encoded ≠ encodeScript script) ∧
      (Unreadable encoded.toList ↔
        ∃ reason, decodeScript encoded = .error (.encoding reason)) := by
  refine ⟨fun script => decodeScript_eq_ok_iff.mpr rfl, fun encoded => ⟨?_, ?_, unreadable_iff, ?_⟩⟩
  · intro script
    exact decodeScript_eq_ok_iff
  · intro script
    exact eq_encodeScript_iff
  · rw [unreadable_iff]
    constructor
    · intro none
      rcases decodeScript_cases encoded with ⟨script, read⟩ | refused
      · exact absurd (decodeScript_eq_ok_iff.mp read) (none script)
      · exact refused
    · rintro ⟨reason, refused⟩ script same
      rw [decodeScript_eq_ok_iff.mpr same] at refused
      cases refused

end Hostlink.WinRm
