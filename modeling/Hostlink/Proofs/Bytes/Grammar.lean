import Mathlib.Tactic.ByContra
import Hostlink.Proofs.Bytes.Canonical

/-!
# What base64 can be read from

The reader of base64 is held here against rules that mention neither a reader nor a writer. `Spells`
says which text stands for which octets, one group after another. `Malformed` says what is wrong with
anything else, and each of its cases can be pointed at: a character, a length, a place, spare bits.

`spells_iff` ties the first to the writer, `malformed_iff` the second to the first. So a text that
cannot be read is wrong in one of the ways listed, and a text that is wrong in one of these ways is
not read after all.
-/

namespace Hostlink.Base64

/-- The standard alphabet, every symbol at the place of its number. -/
def alphabet : List Char :=
  "ABCDEFGHIJKLMNOPQRSTUVWXYZabcdefghijklmnopqrstuvwxyz0123456789+/".toList

theorem alphabet_eq : alphabet = (List.range 64).map symbol := by decide +kernel

theorem getElem?_alphabet_iff {n : Nat} {c : Char} :
    alphabet[n]? = some c ↔ n < 64 ∧ c = symbol n := by
  rw [alphabet_eq, List.getElem?_map, Option.map_eq_some_iff]
  constructor
  · rintro ⟨m, there, rfl⟩
    obtain ⟨small, rfl⟩ := List.getElem?_eq_some_iff.mp there
    rw [List.getElem_range]
    rw [List.length_range] at small
    exact ⟨small, rfl⟩
  · rintro ⟨small, rfl⟩
    exact ⟨n, List.getElem?_range small, rfl⟩

theorem mem_alphabet_iff {c : Char} : c ∈ alphabet ↔ ∃ n : Nat, alphabet[n]? = some c :=
  List.mem_iff_getElem?

theorem symbol_ne_sign : ∀ n < 64, symbol n ≠ '=' := by decide

/-- Octets that fill their groups are written without padding. -/
theorem sign_not_mem_encode {bytes : Bytes} (whole : bytes.length % 3 = 0) : '=' ∉ encode bytes := by
  have unpadded : padding bytes = 0 := by
    rw [padding, whole]
  rw [encode_eq, unpadded, List.replicate_zero, List.append_nil, List.mem_map]
  rintro ⟨n, among, same⟩
  exact symbol_ne_sign n (sextets_lt bytes n among) same

theorem sign_not_mem_alphabet : '=' ∉ alphabet := by
  intro among
  obtain ⟨n, there⟩ := mem_alphabet_iff.mp among
  obtain ⟨small, same⟩ := getElem?_alphabet_iff.mp there
  exact symbol_ne_sign n small same.symm

/-! ## Texts that can be read -/

/-- **The text of octets**, by their bits: four symbols have those of three octets. Where the octets
end within a group, zeros follow their bits up to the next symbol, and padding fills the group. -/
inductive Spells : List Char → Bytes → Prop
  | nil : Spells [] []
  | one {x y : Char} {m n : Nat} {a : UInt8} (hx : alphabet[m]? = some x)
      (hy : alphabet[n]? = some y) (bits : m * 64 + n = a.toNat * 16) :
      Spells [x, y, '=', '='] [a]
  | two {x y z : Char} {m n k : Nat} {a b : UInt8} (hx : alphabet[m]? = some x)
      (hy : alphabet[n]? = some y) (hz : alphabet[k]? = some z)
      (bits : (m * 64 + n) * 64 + k = (a.toNat * 256 + b.toNat) * 4) :
      Spells [x, y, z, '='] [a, b]
  | group {x y z w : Char} {m n k l : Nat} {a b c : UInt8} {text : List Char} {rest : Bytes}
      (hx : alphabet[m]? = some x) (hy : alphabet[n]? = some y) (hz : alphabet[k]? = some z)
      (hw : alphabet[l]? = some w)
      (bits : ((m * 64 + n) * 64 + k) * 64 + l = (a.toNat * 256 + b.toNat) * 256 + c.toNat)
      (tail : Spells text rest) : Spells (x :: y :: z :: w :: text) (a :: b :: c :: rest)

theorem encode_of_spells {text : List Char} {bytes : Bytes} (h : Spells text bytes) :
    text = encode bytes := by
  induction h with
  | nil => rfl
  | @one x y m n a hx hy bits =>
    obtain ⟨_, rfl⟩ := getElem?_alphabet_iff.mp hx
    obtain ⟨_, rfl⟩ := getElem?_alphabet_iff.mp hy
    have first : a.toNat * 16 / 64 = m := by omega
    have last : a.toNat * 16 % 64 = n := by omega
    simp only [encode, first, last]
  | @two x y z m n k a b hx hy hz bits =>
    obtain ⟨_, rfl⟩ := getElem?_alphabet_iff.mp hx
    obtain ⟨_, rfl⟩ := getElem?_alphabet_iff.mp hy
    obtain ⟨_, rfl⟩ := getElem?_alphabet_iff.mp hz
    have first : (a.toNat * 256 + b.toNat) * 4 / 4096 = m := by omega
    have second : (a.toNat * 256 + b.toNat) * 4 / 64 % 64 = n := by omega
    have last : (a.toNat * 256 + b.toNat) * 4 % 64 = k := by omega
    simp only [encode, first, second, last]
  | @group x y z w m n k l a b c text rest hx hy hz hw bits tail ih =>
    obtain ⟨_, rfl⟩ := getElem?_alphabet_iff.mp hx
    obtain ⟨_, rfl⟩ := getElem?_alphabet_iff.mp hy
    obtain ⟨_, rfl⟩ := getElem?_alphabet_iff.mp hz
    obtain ⟨_, rfl⟩ := getElem?_alphabet_iff.mp hw
    have first : ((a.toNat * 256 + b.toNat) * 256 + c.toNat) / 262144 = m := by omega
    have second : ((a.toNat * 256 + b.toNat) * 256 + c.toNat) / 4096 % 64 = n := by omega
    have third : ((a.toNat * 256 + b.toNat) * 256 + c.toNat) / 64 % 64 = k := by omega
    have last : ((a.toNat * 256 + b.toNat) * 256 + c.toNat) % 64 = l := by omega
    simp only [encode, first, second, third, last, ih]

theorem spells_encode (bytes : Bytes) : Spells (encode bytes) bytes := by
  have at_place {n : Nat} (small : n < 64) : alphabet[n]? = some (symbol n) :=
    getElem?_alphabet_iff.mpr ⟨small, rfl⟩
  fun_induction encode bytes with
  | case1 => exact .nil
  | case2 a n =>
    have := a.toNat_lt
    exact .one (at_place (by omega)) (at_place (by omega)) (by omega)
  | case3 a b n =>
    have := a.toNat_lt
    have := b.toNat_lt
    exact .two (at_place (by omega)) (at_place (by omega)) (at_place (by omega)) (by omega)
  | case4 a b c rest n ih =>
    have := a.toNat_lt
    have := b.toNat_lt
    have := c.toNat_lt
    exact .group (at_place (by omega)) (at_place (by omega)) (at_place (by omega))
      (at_place (by omega)) (by omega) ih

/-- **The rule and the writer agree.** -/
theorem spells_iff {text : List Char} {bytes : Bytes} : Spells text bytes ↔ text = encode bytes := by
  constructor
  · intro h
    exact encode_of_spells h
  · rintro rfl
    exact spells_encode bytes

theorem encode_injective {bytes bytes' : Bytes} (h : encode bytes = encode bytes') :
    bytes = bytes' := by
  have read := decode_encode bytes
  rw [h, decode_encode bytes'] at read
  exact (Except.ok.inj read).symm

/-! ## Texts that cannot be read -/

/-- **What can be wrong with a text.** -/
inductive Malformed : List Char → Prop
  /-- A character is neither a symbol nor padding. -/
  | stranger {text : List Char} {c : Char} (among : c ∈ text) (unknown : c ∉ alphabet)
      (other : c ≠ '=') : Malformed text
  /-- The length leaves a group unfilled. -/
  | ragged {text : List Char} (length : text.length % 4 ≠ 0) : Malformed text
  /-- Padding stands elsewhere than in the last place, or in the last two. -/
  | early (front : List Char) {back : List Char} (some : back ≠ []) (more : back ≠ ['=']) :
      Malformed (front ++ '=' :: back)
  /-- The last symbol of a single octet has bits behind those of the octet. -/
  | sparesFour (front : List Char) {x y : Char} {n : Nat} (hy : alphabet[n]? = some y)
      (bits : n % 16 ≠ 0) : Malformed (front ++ [x, y, '=', '='])
  /-- The last symbol of two octets has bits behind theirs. -/
  | sparesTwo (front : List Char) {x y z : Char} {n : Nat} (hz : alphabet[n]? = some z)
      (bits : n % 4 ≠ 0) : Malformed (front ++ [x, y, z, '='])

/-- Whatever is wrong with a text that starts with a group of symbols is wrong behind the group. -/
theorem Malformed.behind (group : List Char) {text : List Char} (symbols : ∀ c ∈ group, c ∈ alphabet)
    (four : group.length = 4) (h : Malformed (group ++ text)) : Malformed text := by
  have noSign : '=' ∉ group := fun among => sign_not_mem_alphabet (symbols _ among)
  by_cases whole : text.length % 4 = 0
  · -- a last group with padding in it is not the group in front
    have last {front tail : List Char} (length : tail.length = 4) (sign : '=' ∈ tail)
        (same : group ++ text = front ++ tail) : ∃ front', text = front' ++ tail := by
      rcases List.append_eq_append_iff.mp same with ⟨front', -, back⟩ | ⟨inside, here, back⟩
      · exact ⟨front', back⟩
      · have lengths := congrArg List.length back
        rw [List.length_append, length] at lengths
        by_cases none : inside = []
        · exact ⟨[], by rw [back, none]; rfl⟩
        · have some := List.length_pos_iff.mpr none
          have nothing : text = [] := List.length_eq_zero_iff.mp (by omega)
          rw [back, nothing, List.append_nil] at sign
          exact absurd (here ▸ List.mem_append_right front sign) noSign
    generalize same : group ++ text = all at h
    cases h with
    | stranger among unknown other =>
      subst same
      rcases List.mem_append.mp among with among | among
      · exact absurd (symbols _ among) unknown
      · exact .stranger among unknown other
    | ragged length =>
      subst same
      rw [List.length_append] at length
      omega
    | @early front back some more =>
      rcases List.append_eq_append_iff.mp same with ⟨front', -, rfl⟩ | ⟨inside, here, rest⟩
      · exact .early _ some more
      · cases inside with
        | nil =>
          subst rest
          exact .early [] some more
        | cons c inside =>
          cases rest
          exact absurd (here ▸ List.mem_append_right front List.mem_cons_self) noSign
    | sparesFour _ there bits =>
      obtain ⟨front, rfl⟩ := last rfl (by simp) same
      exact .sparesFour _ there bits
    | sparesTwo _ there bits =>
      obtain ⟨front, rfl⟩ := last rfl (by simp) same
      exact .sparesTwo _ there bits
  · exact .ragged whole

/-- What is wrong behind a group is wrong with the whole text. -/
theorem Malformed.append (group : List Char) {text : List Char} (four : group.length = 4)
    (h : Malformed text) : Malformed (group ++ text) := by
  cases h with
  | stranger among unknown other =>
    exact .stranger (List.mem_append_right group among) unknown other
  | ragged length =>
    apply Malformed.ragged
    rw [List.length_append]
    omega
  | early _ some more =>
    rw [← List.append_assoc]
    exact .early _ some more
  | sparesFour _ there bits =>
    rw [← List.append_assoc]
    exact .sparesFour _ there bits
  | sparesTwo _ there bits =>
    rw [← List.append_assoc]
    exact .sparesTwo _ there bits

/-- A symbol has one place in the alphabet. -/
theorem place_unique {m n : Nat} {c : Char} (hm : alphabet[m]? = some c)
    (hn : alphabet[n]? = some c) : m = n := by
  obtain ⟨small, rfl⟩ := getElem?_alphabet_iff.mp hm
  obtain ⟨small', same⟩ := getElem?_alphabet_iff.mp hn
  have read : digit? (octet m) = digit? (octet n) := by rw [octet, same, octet]
  rw [digit?_octet m small, digit?_octet n small'] at read
  exact Option.some.inj read

/-- What is wrong with four characters. -/
theorem Malformed.four {x y z w : Char} (h : Malformed [x, y, z, w]) :
    (∃ c ∈ [x, y, z, w], c ∉ alphabet ∧ c ≠ '=') ∨ x = '=' ∨ y = '=' ∨ (z = '=' ∧ w ≠ '=') ∨
      (w = '=' ∧ z = '=' ∧ ∃ n : Nat, alphabet[n]? = some y ∧ n % 16 ≠ 0) ∨
      (w = '=' ∧ ∃ n : Nat, alphabet[n]? = some z ∧ n % 4 ≠ 0) := by
  have alone {front tail : List Char} (same : [x, y, z, w] = front ++ tail)
      (length : tail.length = 4) : front = [] := by
    have lengths := congrArg List.length same
    rw [List.length_append, length] at lengths
    exact List.length_eq_zero_iff.mp (Nat.right_eq_add.mp lengths)
  generalize same : [x, y, z, w] = all at h
  cases h with
  | @stranger _ c among unknown other =>
    subst same
    exact .inl ⟨c, among, unknown, other⟩
  | ragged length =>
    subst same
    exact absurd (Nat.mod_self 4) length
  | @early front back some more =>
    -- the sign stands in one of the four places
    rcases front with _ | ⟨_, _ | ⟨_, _ | ⟨_, _ | ⟨_, front⟩⟩⟩⟩
    · cases same
      exact .inr (.inl rfl)
    · cases same
      exact .inr (.inr (.inl rfl))
    · cases same
      refine .inr (.inr (.inr (.inl ⟨rfl, ?_⟩)))
      rintro rfl
      exact more rfl
    · cases same
      exact absurd rfl some
    · cases front <;> cases same
  | sparesFour _ there bits =>
    cases alone same rfl
    cases same
    exact .inr (.inr (.inr (.inr (.inl ⟨rfl, rfl, _, there, bits⟩))))
  | sparesTwo _ there bits =>
    cases alone same rfl
    cases same
    exact .inr (.inr (.inr (.inr (.inr ⟨rfl, _, there, bits⟩))))

/-- **Nothing is wrong with a text that can be read.** By induction on its groups; only the last one
can have padding in it, and then nothing stands in front of it. -/
theorem not_malformed_of_spells {text : List Char} {bytes : Bytes} (h : Spells text bytes) :
    ¬ Malformed text := by
  have known {n : Nat} {c : Char} (there : alphabet[n]? = some c) : c ∈ alphabet :=
    mem_alphabet_iff.mpr ⟨n, there⟩
  have sign {n : Nat} {c : Char} (there : alphabet[n]? = some c) : c ≠ '=' := by
    rintro rfl
    exact sign_not_mem_alphabet (known there)
  induction h with
  | nil =>
    intro wrong
    generalize same : ([] : List Char) = all at wrong
    cases wrong with
    | stranger among => exact List.not_mem_nil (same ▸ among)
    | ragged length => exact length (same ▸ rfl)
    | early => exact List.append_ne_nil_of_right_ne_nil _ (List.cons_ne_nil _ _) same.symm
    | sparesFour => exact List.append_ne_nil_of_right_ne_nil _ (List.cons_ne_nil _ _) same.symm
    | sparesTwo => exact List.append_ne_nil_of_right_ne_nil _ (List.cons_ne_nil _ _) same.symm
  | @one x y m n a hx hy bits =>
    intro wrong
    rcases wrong.four with
      ⟨c, among, unknown, other⟩ | rfl | rfl | ⟨-, more⟩ | ⟨-, -, k, there, spare⟩ | ⟨-, k, there, -⟩
    · simp only [List.mem_cons, List.not_mem_nil, or_false] at among
      rcases among with rfl | rfl | rfl | rfl
      · exact unknown (known hx)
      · exact unknown (known hy)
      · exact other rfl
      · exact other rfl
    · exact sign hx rfl
    · exact sign hy rfl
    · exact more rfl
    · cases place_unique there hy
      omega
    · exact sign there rfl
  | @two x y z m n k a b hx hy hz bits =>
    intro wrong
    rcases wrong.four with
      ⟨c, among, unknown, other⟩ | rfl | rfl | ⟨rfl, -⟩ | ⟨-, rfl, -⟩ | ⟨-, l, there, spare⟩
    · simp only [List.mem_cons, List.not_mem_nil, or_false] at among
      rcases among with rfl | rfl | rfl | rfl
      · exact unknown (known hx)
      · exact unknown (known hy)
      · exact unknown (known hz)
      · exact other rfl
    · exact sign hx rfl
    · exact sign hy rfl
    · exact sign hz rfl
    · exact sign hz rfl
    · cases place_unique there hz
      omega
  | @group x y z w m n k l a b c text rest hx hy hz hw bits tail ih =>
    intro wrong
    refine ih (Malformed.behind [x, y, z, w] ?_ rfl wrong)
    intro c among
    simp only [List.mem_cons, List.not_mem_nil, or_false] at among
    rcases among with rfl | rfl | rfl | rfl
    · exact known hx
    · exact known hy
    · exact known hz
    · exact known hw

/-- **A text with nothing wrong can be read.** By induction on its length, a group at a time. -/
theorem exists_spells {text : List Char} (h : ¬ Malformed text) : ∃ bytes, Spells text bytes := by
  induction size : text.length using Nat.strongRecOn generalizing text with
  | _ size ih =>
    have whole : text.length % 4 = 0 := by
      by_contra partly
      exact h (.ragged partly)
    have place {c : Char} (among : c ∈ text) (other : c ≠ '=') : ∃ n : Nat, alphabet[n]? = some c := by
      by_contra unknown
      exact h (.stranger among (mt mem_alphabet_iff.mp unknown) other)
    rcases text with _ | ⟨x, _ | ⟨y, _ | ⟨z, _ | ⟨w, text⟩⟩⟩⟩
    · exact ⟨[], .nil⟩
    · cases whole
    · cases whole
    · cases whole
    · have fine : ¬ Malformed text := fun wrong => h (wrong.append [x, y, z, w] rfl)
      have ends : text ≠ ['='] := by
        rintro rfl
        simp at whole
      obtain ⟨m, hx⟩ : ∃ m : Nat, alphabet[m]? = some x := by
        refine place (by simp) ?_
        rintro rfl
        exact h (.early [] (by simp) (by simp))
      obtain ⟨n, hy⟩ : ∃ n : Nat, alphabet[n]? = some y := by
        refine place (by simp) ?_
        rintro rfl
        exact h (.early [x] (by simp) (by simp))
      have hm := (getElem?_alphabet_iff.mp hx).1
      have hn := (getElem?_alphabet_iff.mp hy).1
      by_cases third : z = '='
      · -- one octet: the rest of the group is padding
        subst third
        have rest : w :: text = ['='] := by
          by_contra more
          exact h (.early [x, y] (by simp) more)
        cases rest
        have zeros : n % 16 = 0 := by
          by_contra bits
          exact h (.sparesFour [] hy bits)
        refine ⟨[UInt8.ofNat ((m * 64 + n) / 16)], .one hx hy ?_⟩
        rw [UInt8.toNat_ofNat']
        omega
      · obtain ⟨k, hz⟩ := place (by simp) third
        have hk := (getElem?_alphabet_iff.mp hz).1
        by_cases fourth : w = '='
        · -- two octets
          subst fourth
          have rest : text = [] := by
            by_contra some
            exact h (.early [x, y, z] some ends)
          subst rest
          have zeros : k % 4 = 0 := by
            by_contra bits
            exact h (.sparesTwo [] hz bits)
          refine ⟨[UInt8.ofNat (((m * 64 + n) * 64 + k) / 1024),
            UInt8.ofNat (((m * 64 + n) * 64 + k) / 4)], .two hx hy hz ?_⟩
          rw [UInt8.toNat_ofNat', UInt8.toNat_ofNat']
          omega
        · obtain ⟨l, hw⟩ := place (by simp) fourth
          have hl := (getElem?_alphabet_iff.mp hw).1
          simp only [List.length_cons] at size
          obtain ⟨rest, tail⟩ := ih text.length (by omega) fine rfl
          let bits := ((m * 64 + n) * 64 + k) * 64 + l
          refine ⟨UInt8.ofNat (bits / 65536) :: UInt8.ofNat (bits / 256) :: UInt8.ofNat bits :: rest,
            .group hx hy hz hw ?_ tail⟩
          rw [UInt8.toNat_ofNat', UInt8.toNat_ofNat', UInt8.toNat_ofNat']
          omega

/-- **What cannot be read is malformed, and nothing else is.** -/
theorem malformed_iff {text : List Char} : Malformed text ↔ ∀ bytes, text ≠ encode bytes := by
  constructor
  · rintro wrong bytes rfl
    exact not_malformed_of_spells (spells_encode bytes) wrong
  · intro none
    by_contra fine
    obtain ⟨bytes, spelled⟩ := exists_spells fine
    exact none bytes (spells_iff.mp spelled)

end Hostlink.Base64
