import Hostlink.Proofs.Text.Skip
import Hostlink.Text.Blank
import Hostlink.Text.Markup
import Mathlib.Data.List.Basic

/-!
# Escaped texts

Escaping is undone by reading the five entities in one pass, `unescape_escape`, and it leaves no
delimiter of markup behind. Both hold of every text, whatever stands in it: an ampersand of the text
is escaped itself, so what looked like an entity before is read as the text it was.

Escaping goes by single characters. It can also be done by replacing one character after another in
the whole text, `escapeInTurn`, and the ampersand has to be the first of them, since each of the
replacements brings ampersands of its own. That this is the same is `escapeInTurn_eq`.
-/

namespace Hostlink.Text.Markup

/-- The characters that tags and attributes begin and end with. -/
def delimiters : List Char := ['<', '>', '"', '\'']

/-- The characters that are escaped. -/
def special : List Char := '&' :: delimiters

/-- The delimiters of a text, in order. -/
def markup (text : List Char) : List Char := text.filter (· ∈ delimiters)

theorem markup_append (a b : List Char) : markup (a ++ b) = markup a ++ markup b :=
  List.filter_append a b

theorem toList_escape (s : String) : (escape s).toList = s.toList.flatMap escapeChar :=
  String.toList_ofList

/-! ## Single characters -/

theorem escapeChar_of_plain {c : Char} (plain : c ∉ special) : escapeChar c = [c] := by
  simp only [special, delimiters, List.mem_cons, List.not_mem_nil, or_false, not_or] at plain
  obtain ⟨amp, lt, gt, quot, apos⟩ := plain
  exact escapeChar.eq_6 c amp lt gt quot apos

theorem not_mem_delimiters_of_mem_escapeChar {c d : Char} (h : d ∈ escapeChar c) :
    d ∉ delimiters := by
  by_cases plain : c ∈ special
  · have table : special.all (fun c => (escapeChar c).all (· ∉ delimiters)) = true := by decide
    simpa using List.all_eq_true.mp (List.all_eq_true.mp table c plain) d h
  · rw [escapeChar_of_plain plain, List.mem_singleton] at h
    subst h
    exact fun delimiter => plain (List.mem_cons_of_mem _ delimiter)

/-! ## Whole texts -/

/-- **No delimiter stands in an escaped text.** -/
theorem not_mem_delimiters_of_mem_escape {s : String} {d : Char} (h : d ∈ (escape s).toList) :
    d ∉ delimiters := by
  rw [toList_escape, List.mem_flatMap] at h
  obtain ⟨c, _, written⟩ := h
  exact not_mem_delimiters_of_mem_escapeChar written

theorem markup_escape (s : String) : markup (escape s).toList = [] :=
  List.filter_eq_nil_iff.mpr fun _ among => by
    simpa using not_mem_delimiters_of_mem_escape among

/-- A text without special characters is its own written form. -/
theorem escape_of_plain {s : String} (plain : ∀ c ∈ s.toList, c ∉ special) : escape s = s := by
  have same : s.toList.flatMap escapeChar = s.toList.flatMap fun c => [c] :=
    List.flatMap_congr fun c among => escapeChar_of_plain (plain c among)
  rw [escape, same, List.flatMap_singleton', String.ofList_toList]

/-- What is written for a character is longer than the character, if it is a special one. -/
theorem length_escapeChar (c : Char) :
    1 ≤ (escapeChar c).length ∧ ((escapeChar c).length = 1 → c ∉ special) := by
  by_cases plain : c ∈ special
  · have table : special.all (fun c => 1 < (escapeChar c).length) = true := by decide
    have longer : 1 < (escapeChar c).length := by simpa using List.all_eq_true.mp table c plain
    exact ⟨Nat.le_of_lt longer, fun single => absurd single (Nat.ne_of_gt longer)⟩
  · rw [escapeChar_of_plain plain]
    exact ⟨Nat.le_refl 1, fun _ => plain⟩

theorem length_flatMap_escapeChar (cs : List Char) :
    cs.length ≤ (cs.flatMap escapeChar).length ∧
      ((cs.flatMap escapeChar).length = cs.length → ∀ c ∈ cs, c ∉ special) := by
  induction cs with
  | nil => exact ⟨Nat.le_refl 0, fun _ => List.forall_mem_nil _⟩
  | cons c cs ih =>
    obtain ⟨one, single⟩ := length_escapeChar c
    obtain ⟨many, plain⟩ := ih
    rw [List.flatMap_cons, List.length_append, List.length_cons]
    refine ⟨by omega, fun same => List.forall_mem_cons.mpr ⟨single ?_, plain ?_⟩⟩
    · omega
    · omega

/-- **A text is its own written form** exactly if no special character is in it. -/
theorem escape_eq_self_iff {s : String} : escape s = s ↔ ∀ c ∈ s.toList, c ∉ special := by
  refine ⟨fun same => (length_flatMap_escapeChar s.toList).2 ?_, escape_of_plain⟩
  rw [← toList_escape, same]

theorem not_blank_of_mem_escapeChar {c d : Char} (solid : isBlank c = false)
    (written : d ∈ escapeChar c) : isBlank d = false := by
  by_cases plain : c ∈ special
  · have table : special.all (fun c => (escapeChar c).all (!isBlank ·)) = true := by decide
    simpa using List.all_eq_true.mp (List.all_eq_true.mp table c plain) d written
  · rw [escapeChar_of_plain plain, List.mem_singleton] at written
    rwa [written]

/-- A text without blanks at its ends has none there when it is written. -/
theorem trimChars_escape {s : String} (solid : trimChars s.toList = s.toList) :
    trimChars (escape s).toList = (escape s).toList := by
  have inhabited (c : Char) : escapeChar c ≠ [] := List.length_pos_iff.mp (length_escapeChar c).1
  obtain ⟨first, last⟩ := trimChars_eq_self_iff.mp solid
  rw [toList_escape]
  refine trimChars_eq_self_iff.mpr ⟨?_, ?_⟩
  · cases chars : s.toList with
    | nil => exact fun _ none => by cases none
    | cons c cs =>
      rw [chars] at first
      intro d found
      rw [List.flatMap_cons, List.head?_append_of_ne_nil _ (inhabited c)] at found
      exact not_blank_of_mem_escapeChar (first c rfl) (List.mem_of_head? found)
  · rcases List.eq_nil_or_concat s.toList with chars | ⟨cs, c, chars⟩
    · rw [chars]
      exact fun _ none => by cases none
    · rw [chars, List.concat_eq_append] at last ⊢
      intro d found
      rw [List.flatMap_append, List.flatMap_singleton,
        List.getLast?_append_of_ne_nil _ (inhabited c)] at found
      exact not_blank_of_mem_escapeChar (last c List.getLast?_concat) (List.mem_of_getLast? found)

/-! ## Reading back -/

/-- The text that an escaped text stands for: the five entities are read from left to right, and
every other character is itself. -/
def unescapeChars : List Char → List Char
  | '&' :: 'a' :: 'm' :: 'p' :: ';' :: rest => '&' :: unescapeChars rest
  | '&' :: 'l' :: 't' :: ';' :: rest => '<' :: unescapeChars rest
  | '&' :: 'g' :: 't' :: ';' :: rest => '>' :: unescapeChars rest
  | '&' :: 'q' :: 'u' :: 'o' :: 't' :: ';' :: rest => '"' :: unescapeChars rest
  | '&' :: 'a' :: 'p' :: 'o' :: 's' :: ';' :: rest => '\'' :: unescapeChars rest
  | c :: rest => c :: unescapeChars rest
  | [] => []

def unescape (s : String) : String := String.ofList (unescapeChars s.toList)

theorem unescapeChars_cons {c : Char} (other : c ≠ '&') (rest : List Char) :
    unescapeChars (c :: rest) = c :: unescapeChars rest := by
  simp [unescapeChars, other]

theorem unescapeChars_escapeChar (c : Char) (rest : List Char) :
    unescapeChars (escapeChar c ++ rest) = c :: unescapeChars rest := by
  by_cases plain : c ∈ special
  · simp only [special, delimiters, List.mem_cons, List.not_mem_nil, or_false] at plain
    rcases plain with rfl | rfl | rfl | rfl | rfl <;> rfl
  · rw [escapeChar_of_plain plain, List.singleton_append]
    exact unescapeChars_cons (fun amp => plain (List.mem_cons.mpr (.inl amp))) rest

/-- **Reading an escaped text back gives the text.** By induction on the text, one character of it
at a time. -/
theorem unescape_escape (s : String) : unescape (escape s) = s := by
  have chars (text : List Char) : unescapeChars (text.flatMap escapeChar) = text := by
    induction text with
    | nil => rfl
    | cons c text ih => rw [List.flatMap_cons, unescapeChars_escapeChar, ih]
  rw [unescape, toList_escape, chars, String.ofList_toList]

/-! ## Replacing in turn -/

/-- **A character is replaced in the whole text**, at each place where it stands. -/
def replaceChar (c : Char) (entity text : List Char) : List Char :=
  match _h : cut? [c] text with
  | none => text
  | some (before, behind) => before ++ entity ++ replaceChar c entity behind
termination_by text.length
decreasing_by exact length_lt_of_cut? (List.cons_ne_nil c []) _h

/-- The five special characters, replaced one after another. -/
def escapeInTurn (s : String) : String :=
  String.ofList <|
    replaceChar '\'' "&apos;".toList <|
    replaceChar '"' "&quot;".toList <|
    replaceChar '>' "&gt;".toList <|
    replaceChar '<' "&lt;".toList <|
    replaceChar '&' "&amp;".toList s.toList

theorem replaceChar_none {c : Char} {entity text : List Char} (h : cut? [c] text = none) :
    replaceChar c entity text = text := by
  rw [replaceChar]
  split
  · rfl
  · rename_i found
    cases h.symm.trans found

theorem replaceChar_some {c : Char} {entity text before behind : List Char}
    (h : cut? [c] text = some (before, behind)) :
    replaceChar c entity text = before ++ entity ++ replaceChar c entity behind := by
  rw [replaceChar]
  split
  · rename_i found
    cases h.symm.trans found
  · rename_i found
    cases h.symm.trans found
    rfl

theorem replaceChar_self (c : Char) (entity rest : List Char) :
    replaceChar c entity (c :: rest) = entity ++ replaceChar c entity rest :=
  replaceChar_some (cut?_mark (List.cons_ne_nil c []) rest)

theorem replaceChar_other {c d : Char} (other : d ≠ c) (entity rest : List Char) :
    replaceChar c entity (d :: rest) = d :: replaceChar c entity rest := by
  have absent : c ∉ [d] := fun same => other (List.mem_singleton.mp same).symm
  have passed := cut?_skip (skips_of_head absent [] rest)
  cases found : cut? [c] rest with
  | none =>
    rw [found] at passed
    rw [replaceChar_none found]
    exact replaceChar_none passed
  | some parts =>
    rw [found] at passed
    rw [replaceChar_some found]
    exact replaceChar_some passed

/-- **Replacing in a whole text goes by its characters.** -/
theorem replaceChar_eq (c : Char) (entity text : List Char) :
    replaceChar c entity text = text.flatMap fun d => if d = c then entity else [d] := by
  induction text with
  | nil => exact replaceChar_none rfl
  | cons d text ih =>
    rw [List.flatMap_cons, ← ih]
    by_cases same : d = c
    · subst same
      rw [if_pos rfl, replaceChar_self]
    · rw [if_neg same, replaceChar_other same]
      rfl

/-- **Replacing the special characters in turn escapes the text.** -/
theorem escapeInTurn_eq (s : String) : escapeInTurn s = escape s := by
  -- each replacement goes by characters, so the five of them together do
  simp only [escapeInTurn, escape, replaceChar_eq, List.flatMap_assoc]
  congr 1
  refine List.flatMap_congr fun c _ => ?_
  by_cases plain : c ∈ special
  · simp only [special, delimiters, List.mem_cons, List.not_mem_nil, or_false] at plain
    rcases plain with rfl | rfl | rfl | rfl | rfl <;> decide +kernel
  · rw [escapeChar_of_plain plain]
    simp only [special, delimiters, List.mem_cons, List.not_mem_nil, or_false, not_or] at plain
    obtain ⟨amp, lt, gt, quot, apos⟩ := plain
    simp only [if_neg amp, if_neg lt, if_neg gt, if_neg quot, if_neg apos, List.flatMap_singleton]

end Hostlink.Text.Markup
