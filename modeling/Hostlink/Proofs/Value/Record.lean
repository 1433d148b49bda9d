import Hostlink.Value.Decode
import Mathlib.Data.List.Nodup

/-!
# Records restated

The same record can be written in several ways. By name, its fields may come in any order, among
others that the reader does not know, and those may be left out that hold what the reader takes in
their absence. By position, they are a list. `Restated` says which values are ways to write one
record, without a word on how they are read.

`Restated.view` is the other side: whichever way it is, a reader that lays the value open finds each
field's value, or finds none where the field may be left out, `Fields.Shows`. From there each field
is read by `Fields.Shows.read`, and nothing more of the way of writing is looked at.

Only JSON is spoken of. TOML has no absent values to write, and ignores what a list has too much.
-/

namespace Hostlink.Value

/-! ## Ways to write a record -/

/-- **The ways to write a record** whose fields are `given`, all of them and in order of declaration,
of which those with a `spare` name may be left out. -/
inductive Restated (l : Layout) (spare : String → Prop) (given : List (String × Value)) : Value → Prop
  /-- By name: what is left out may be left out, what is added is no field, and the order is free. -/
  | byName (kept added : List (String × Value)) {entries : List (String × Value)}
      (some : kept.Sublist given) (dropped : ∀ e ∈ given, e ∈ kept ∨ spare e.1)
      (strange : ∀ e ∈ added, e.1 ∉ l.fields) (order : entries.Perm (kept ++ added)) :
      Restated l spare given (.record entries)
  /-- By position: every field's value, in order of declaration. -/
  | byPosition : Restated l spare given (.list (given.map (·.2)))

/-- **The ways to write what may be absent.** -/
def RestatedOption {α : Type} (restated : α → Value → Prop) : Option α → Value → Prop
  | none, v => v = .null
  | some a, v => restated a v

namespace Restated

variable {l : Layout} {spare : String → Prop} {given : List (String × Value)} {v : Value}

/-- A record is one of the ways to write it. -/
theorem plain : Restated l spare given (.record given) := by
  have order : given.Perm (given ++ []) := by rw [List.append_nil]
  exact .byName given [] (List.Sublist.refl given) (fun e among => .inl among)
    (fun e none => (List.not_mem_nil none).elim) order

/-- No way to write a record says that there is none. -/
theorem ne_null (h : Restated l spare given v) : v ≠ .null := by
  cases h with
  | byName | byPosition => exact Value.noConfusion

end Restated

/-! ## Fields laid open -/

/-- **What is laid open of a record**: the value of each field, or none where it may be left out. -/
structure Fields.Shows (fs : Fields) (spare : String → Prop) (given : List (String × Value)) :
    Prop where
  dialect : fs.dialect = .json
  found : ∀ e ∈ given, fs.find? e.1 = some e.2 ∨ spare e.1 ∧ fs.find? e.1 = none

/-- A field is read from its value, or is what the reader takes in its absence. -/
theorem Fields.Shows.read {fs : Fields} {spare : String → Prop} {given : List (String × Value)}
    (h : fs.Shows spare given) {name : String} {v : Value} (among : (name, v) ∈ given) {α : Type}
    {read : Reader α} {a : α} (reads : read .json v = .ok a) {absent : Option α}
    (default : spare name → absent = some a) : fs.read name read absent = .ok a := by
  rcases h.found _ among with found | ⟨spared, none⟩
  · simp only [Fields.read, found, h.dialect, reads]
  · simp only [Fields.read, none, default spared]

/-- A name that stands for one value only is looked up as that value. -/
theorem lookup_of_unique {entries : List (String × Value)} {name : String} {v : Value}
    (among : (name, v) ∈ entries) (unique : ∀ e ∈ entries, e.1 = name → e.2 = v) :
    entries.lookup name = some v := by
  cases found : entries.lookup name with
  | none =>
    have other := List.lookup_eq_none_iff.mp found _ among
    exact absurd other (by simp)
  | some v' =>
    obtain ⟨before, after, split, _⟩ := List.lookup_eq_some_iff.mp found
    have there : (name, v') ∈ entries := split ▸ List.mem_append_right before List.mem_cons_self
    rw [← unique _ there rfl]

theorem lookup_of_absent {entries : List (String × Value)} {name : String}
    (absent : ∀ e ∈ entries, e.1 ≠ name) : entries.lookup name = none := by
  refine List.lookup_eq_none_iff.mpr fun e among => ?_
  exact bne_iff_ne.mpr (absent e among).symm

/-- The fields of a record are all tried, and pass if each of them does. -/
theorem view_record {l : Layout} {check : Dialect → String → Value → Except Fault Unit} {d : Dialect}
    {entries : List (String × Value)} (checked : ∀ e ∈ entries, check d e.1 e.2 = .ok ()) :
    l.view check d (.record entries) = .ok ⟨l, d, false, fun name => entries.lookup name⟩ := by
  have all : (forIn entries PUnit.unit fun e _ => do
      check d e.1 e.2
      pure (ForInStep.yield PUnit.unit) : Except Fault PUnit) = .ok () := by
    clear l
    induction entries with
    | nil => rfl
    | cons e entries ih =>
      rw [List.forall_mem_cons] at checked
      rw [List.forIn_cons, checked.1]
      exact ih checked.2
  simp only [Layout.view]
  rw [all]
  rfl

/-- **However a record is written, its fields are laid open**, and nothing is left over. A name is
found once: a second entry of it would be no field's, or would be the same field. -/
theorem Restated.view {l : Layout} {spare : String → Prop} {given : List (String × Value)}
    (names : given.map (·.1) = l.fields) (distinct : l.fields.Nodup)
    {check : Dialect → String → Value → Except Fault Unit}
    (checked : ∀ e ∈ given, check .json e.1 e.2 = .ok ())
    (ignored : ∀ name ∉ l.fields, ∀ v, check .json name v = .ok ()) {v : Value}
    (h : Restated l spare given v) :
    ∃ fs, l.view check .json v = .ok fs ∧ fs.Shows spare given ∧
      l.refuseSurplus .json v = .ok () := by
  have same {e e' : String × Value} (he : e ∈ given) (he' : e' ∈ given) (name : e.1 = e'.1) :
      e = e' := List.inj_on_of_nodup_map (names ▸ distinct) he he' name
  cases h with
  | @byName kept added entries some dropped strange order =>
    have field {e : String × Value} (among : e ∈ entries) (known : e.1 ∈ l.fields) : e ∈ kept :=
      (List.mem_append.mp (order.subset among)).resolve_right fun added => strange e added known
    have known {e : String × Value} (among : e ∈ given) : e.1 ∈ l.fields :=
      names ▸ List.mem_map_of_mem among
    refine ⟨_, view_record fun e among => ?_, ⟨rfl, fun e among => ?_⟩, rfl⟩
    · by_cases known : e.1 ∈ l.fields
      · exact checked e (some.subset (field among known))
      · exact ignored e.1 known e.2
    · by_cases there : e ∈ kept
      · refine .inl (lookup_of_unique ?_ fun e' among' name => ?_)
        · exact order.symm.subset (List.mem_append_left added there)
        · have kept' := field among' (name ▸ known among)
          rw [same (some.subset kept') among name]
      · refine .inr ⟨(dropped e among).resolve_left there, lookup_of_absent fun e' among' name => ?_⟩
        have kept' := field among' (name ▸ known among)
        exact there (same (some.subset kept') among name ▸ kept')
  | byPosition =>
    have length : (given.map (·.2)).length = l.fields.length := by
      rw [← names, List.length_map, List.length_map]
    refine ⟨_, rfl, ⟨rfl, fun e among => .inl ?_⟩, ?_⟩
    · obtain ⟨i, inside, rfl⟩ := List.mem_iff_getElem.mp among
      have place : l.fields.idxOf given[i].1 = i := by
        have bound : i < (given.map (·.1)).length := by rwa [List.length_map]
        have there : given[i].1 = (given.map (·.1))[i] := (List.getElem_map _).symm
        rw [there, ← names]
        exact (names ▸ distinct : (given.map (·.1)).Nodup).idxOf_getElem i bound
      simp only [place, List.getElem?_map, List.getElem?_eq_getElem inside, Option.map_some]
    · rw [Layout.refuseSurplus, if_neg]
      rintro ⟨_, more⟩
      exact absurd length (Nat.ne_of_gt more)

/-! ## Single values read back -/

theorem discard_of_ok {ε α : Type} {result : Except ε α} {a : α} (h : result = .ok a) :
    discard result = .ok () := by
  rw [h]
  rfl

/-- What may be absent is read in any way in which it may be written. -/
theorem readOptional_restated {α : Type} {restated : α → Value → Prop} {read : Reader α}
    {o : Option α} {v : Value} (h : RestatedOption restated o v)
    (reads : ∀ a v, restated a v → v ≠ .null ∧ read .json v = .ok a) :
    readOptional read .json v = .ok o := by
  cases o with
  | none =>
    obtain rfl := h
    rfl
  | some a =>
    obtain ⟨present, same⟩ := reads a v h
    unfold readOptional
    split
    next => exact absurd rfl present
    next =>
      rw [same]
      rfl

/-- What may be absent is read back as it was written. -/
theorem readOptional_optional {α : Type} {write : α → Value} {read : Reader α} (o : Option α)
    (reads : ∀ a, write a ≠ .null ∧ read .json (write a) = .ok a) :
    readOptional read .json (.optional write o) = .ok o := by
  have written : RestatedOption (fun a v => v = write a) o (.optional write o) := by
    cases o <;> rfl
  refine readOptional_restated written ?_
  rintro a _ rfl
  exact reads a

theorem readUnsigned_nat {bits n : Nat} (small : n < Nat.pow 2 bits) :
    readUnsigned bits .json (.int n) = .ok n := by
  have inside : (0 : Int) ≤ n ∧ (n : Int) ≤ Int.ofNat (Nat.pow 2 bits - 1) := by
    refine ⟨Int.natCast_nonneg n, Int.ofNat_le.mpr ?_⟩
    exact Nat.le_sub_one_of_lt small
  rw [readUnsigned, readInt, if_pos inside]
  rfl

theorem readUInt16_toNat (n : UInt16) : readUInt16 .json (.int n.toNat) = .ok n := by
  rw [readUInt16, readUnsigned_nat n.toNat_lt]
  exact congrArg Except.ok UInt16.ofNat_toNat

theorem readUInt32_toNat (n : UInt32) : readUInt32 .json (.int n.toNat) = .ok n := by
  rw [readUInt32, readUnsigned_nat n.toNat_lt]
  exact congrArg Except.ok UInt32.ofNat_toNat

theorem readUInt64_toNat (n : UInt64) : readUInt64 .json (.int n.toNat) = .ok n := by
  rw [readUInt64, readUnsigned_nat n.toNat_lt]
  exact congrArg Except.ok UInt64.ofNat_toNat

theorem readInt32_toInt (n : Int32) : readInt32 .json (.int n.toInt) = .ok n := by
  have inside : (-2147483648 : Int) ≤ n.toInt ∧ n.toInt ≤ 2147483647 :=
    ⟨n.le_toInt, n.toInt_le⟩
  rw [readInt32, readInt, if_pos inside]
  exact congrArg Except.ok (Int32.ofInt_toInt n)

end Hostlink.Value
