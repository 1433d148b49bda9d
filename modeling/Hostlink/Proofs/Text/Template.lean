import Hostlink.Proofs.Text.Entities

/-!
# Templates with escaped texts

A template is a list of pieces: literals, and fields, where a text is given between two delimiters
and written escaped. What is given cannot leave its field. The delimiters of a written template are
those of its pieces, `markup_write`, and a search for a field's delimiters comes to that field and
finds there what was given, `fields_write`, if the template's own pieces are such that the search
does not go astray in them. They do not depend on what is given, so `finds` decides it.
-/

namespace Hostlink.Text.Markup

/-! ## Searching for fields -/

/-- **The texts between two delimiters**: each begins behind an `opening` and ends before the next
`closing`, and the search goes on behind that. -/
def fields (opening closing text : List Char) : List (List Char) :=
  if _inhabited : opening = [] then []
  else
    match _begun : cut? opening text with
    | none => []
    | some (_, behind) =>
      match _ended : cut? closing behind with
      | none => []
      | some (field, rest) => field :: fields opening closing rest
termination_by text.length
decreasing_by
  have shorter := length_lt_of_cut? _inhabited _begun
  have whole := congrArg List.length (eq_append_of_cut? _ended)
  simp only [List.length_append] at whole
  omega

/-- The texts between two delimiters of a text. -/
def fieldTexts (opening closing text : String) : List String :=
  (fields opening.toList closing.toList text.toList).map String.ofList

section Search

variable {opening closing : List Char}

theorem fields_none {text : List Char} (h : cut? opening text = none) :
    fields opening closing text = [] := by
  rw [fields]
  split
  · rfl
  · split
    · rfl
    · rename_i found
      cases h.symm.trans found

theorem fields_some (inhabited : opening ≠ []) {text before behind : List Char}
    (h : cut? opening text = some (before, behind)) :
    fields opening closing text =
      ((cut? closing behind).map fun cut => cut.1 :: fields opening closing cut.2).getD [] := by
  rw [fields, dif_neg inhabited]
  split
  · rename_i found
    cases h.symm.trans found
  · rename_i found
    cases h.symm.trans found
    split
    · rename_i unclosed
      rw [unclosed]
      rfl
    · rename_i closed
      rw [closed]
      rfl

/-- The search passes over a text in which no field begins. -/
theorem fields_skip (inhabited : opening ≠ []) {text rest : List Char}
    (h : Skips opening text rest) :
    fields opening closing (text ++ rest) = fields opening closing rest := by
  have passed := cut?_skip h
  cases found : cut? opening rest with
  | none =>
    rw [found] at passed
    rw [fields_none found, fields_none passed]
  | some parts =>
    rw [found] at passed
    rw [fields_some inhabited found, fields_some inhabited passed]
    rfl

/-- The search finds a text between the delimiters, and goes on behind them. -/
theorem fields_field (begins : opening ≠ []) (ends : closing ≠ []) {text rest : List Char}
    (h : Skips closing text (closing ++ rest)) :
    fields opening closing (opening ++ (text ++ (closing ++ rest))) =
      text :: fields opening closing rest := by
  rw [fields_some begins (cut?_mark begins _), cut?_skip_mark ends h]
  rfl

end Search

/-! ## Templates -/

variable {ι : Type}

/-- A piece of a template, with `ι` for the names of its fields. -/
inductive Piece (ι : Type) where
  | plain (text : List Char)
  /-- Between two delimiters, a text that is given under a name. -/
  | field (opening : String) (name : ι) (closing : String)

namespace Piece

/-- A piece that is a literal. -/
def fixed (text : String) {chars : List Char} (spelled : text = String.ofList chars) : Piece ι :=
  plain (literal text spelled)

/-- The written form of a piece. -/
def written (given : ι → String) : Piece ι → List Char
  | plain text => text
  | field opening name closing =>
    opening.toList ++ ((escape (given name)).toList ++ closing.toList)

/-- The delimiters that a piece has of its own. -/
def ownMarkup : Piece ι → List Char
  | plain text => markup text
  | field opening _ closing => markup opening.toList ++ markup closing.toList

/-- The name of a field between these two. -/
def name? (opening closing : String) : Piece ι → Option ι
  | plain _ => none
  | field opening' name closing' =>
    if opening' = opening ∧ closing' = closing then some name else none

end Piece

variable {opening closing opening' closing' : String} {name : ι}

theorem Piece.name?_same : (Piece.field opening name closing).name? opening closing = some name :=
  if_pos ⟨rfl, rfl⟩

theorem Piece.name?_other (other : ¬ (opening' = opening ∧ closing' = closing)) :
    (Piece.field opening' name closing').name? opening closing = none := if_neg other

/-- The written form of a template. -/
def write (given : ι → String) (t : List (Piece ι)) : List Char := t.flatMap (·.written given)

section Write

variable (given : ι → String) (t : List (Piece ι))

theorem write_nil : write given [] = [] := rfl

theorem write_append (t' : List (Piece ι)) :
    write given (t ++ t') = write given t ++ write given t' :=
  List.flatMap_append

theorem write_plain (text : List Char) : write given (.plain text :: t) = text ++ write given t :=
  List.flatMap_cons

theorem write_fixed (text : String) {chars : List Char} (spelled : text = String.ofList chars) :
    write given (.fixed text spelled :: t) = text.toList ++ write given t := by
  rw [Piece.fixed, write_plain, literal_eq]

theorem write_field (opening : String) (name : ι) (closing : String) :
    write given (.field opening name closing :: t) =
      opening.toList ++ ((escape (given name)).toList ++ (closing.toList ++ write given t)) := by
  rw [write, List.flatMap_cons, Piece.written, List.append_assoc, List.append_assoc, write]

end Write

/-- **The delimiters of a written piece are its own**, whatever is given. -/
theorem Piece.markup_written (given : ι → String) (p : Piece ι) :
    markup (p.written given) = p.ownMarkup := by
  cases p with
  | plain text => rfl
  | field opening name closing =>
    rw [Piece.written, markup_append, markup_append, markup_escape, List.nil_append,
      Piece.ownMarkup]

/-- **The delimiters of a written template are those of its pieces.** -/
theorem markup_write (given : ι → String) (t : List (Piece ι)) :
    markup (write given t) = t.flatMap Piece.ownMarkup := by
  induction t with
  | nil => rfl
  | cons p t ih =>
    rw [write, List.flatMap_cons, markup_append, Piece.markup_written, ← write, ih,
      List.flatMap_cons]

/-! ## What a search finds in a template -/

/-- Whether a search for `mark` passes over an escaped text with `next` behind it: the mark has a
delimiter in it, and either begins with one, or cannot go on with what comes next. -/
def passes (mark next : List Char) : Bool :=
  mark.any (· ∈ delimiters) &&
    (mark.head?.any (· ∈ delimiters) || next.head?.any (· ∉ mark.tail))

theorem skips_escape {mark next : List Char} (h : passes mark next = true) (s : String)
    (rest : List Char) : Skips mark (escape s).toList (next ++ rest) := by
  simp only [passes, Bool.and_eq_true, Bool.or_eq_true, List.any_eq_true, Option.any_eq_true,
    decide_eq_true_eq] at h
  obtain ⟨⟨d, among, delimiter⟩, ⟨c, first, outside⟩ | ⟨c, first, outside⟩⟩ := h
  · obtain ⟨tail, rfl⟩ := List.head?_eq_some_iff.mp first
    exact skips_of_head (fun h => not_mem_delimiters_of_mem_escape h outside) tail _
  · -- the mark may begin in the text, but not go on behind it
    obtain ⟨tail, rfl⟩ := List.head?_eq_some_iff.mp first
    refine skips_of_barrier (fun stands => ?_) fun c first => Option.some.inj first ▸ outside
    exact not_mem_delimiters_of_mem_escape (stands.subset among) delimiter

/-- Whether a search for two delimiters passes over a piece, if it is not a field with just these. -/
def Piece.apart (opening closing : String) : Piece ι → Bool
  | plain text => clear opening.toList text
  | field opening' _ closing' =>
    opening' = opening ∧ closing' = closing ||
      clear opening.toList opening'.toList && passes opening.toList closing'.toList &&
        clear opening.toList closing'.toList

/-- **Whether a search for two delimiters finds the fields with these names**, and nothing else. -/
def finds [DecidableEq ι] (opening closing : String) (t : List (Piece ι)) (names : List ι) : Bool :=
  opening.toList ≠ [] && closing.toList ≠ [] && passes closing.toList closing.toList &&
    t.all (·.apart opening closing) && t.filterMap (·.name? opening closing) = names

/-- **A search for the delimiters of a field finds what was given there.** By induction on the
template, one piece of it at a time. -/
theorem fields_write [DecidableEq ι] {t : List (Piece ι)} {names : List ι}
    (h : finds opening closing t names = true) (given : ι → String) :
    fields opening.toList closing.toList (write given t) =
      names.map fun name => (escape (given name)).toList := by
  simp only [finds, Bool.and_eq_true, decide_eq_true_eq] at h
  obtain ⟨⟨⟨⟨begins, ends⟩, closes⟩, all⟩, rfl⟩ := h
  induction t with
  | nil =>
    refine fields_none (cut?_none begins fun s suffix inhabited => ?_)
    exact absurd (List.suffix_nil.mp suffix) inhabited
  | cons p t ih =>
    rw [List.all_cons, Bool.and_eq_true] at all
    have ih := ih all.2
    cases p with
    | plain text =>
      rw [write_plain, fields_skip begins (skips_of_clear all.1 _), ih]
      rfl
    | field opening' name closing' =>
      rw [write_field]
      by_cases same : opening' = opening ∧ closing' = closing
      · -- no delimiter is given, so the next closing one is the field's own
        obtain ⟨rfl, rfl⟩ := same
        rw [fields_field begins ends (skips_escape closes _ _), ih,
          List.filterMap_cons_some Piece.name?_same, List.map_cons]
      · have apart := all.1
        simp only [Piece.apart, Bool.or_eq_true, Bool.and_eq_true, decide_eq_true_eq, same,
          false_or] at apart
        obtain ⟨⟨front, inside⟩, back⟩ := apart
        rw [fields_skip begins (skips_of_clear front _),
          fields_skip begins (skips_escape inside _ _),
          fields_skip begins (skips_of_clear back _), ih,
          List.filterMap_cons_none (Piece.name?_other same)]

theorem fieldTexts_of_write [DecidableEq ι] {t : List (Piece ι)} {names : List ι} {text : String}
    {given : ι → String} (h : finds opening closing t names = true)
    (written : text.toList = write given t) :
    fieldTexts opening closing text = names.map fun name => escape (given name) := by
  rw [fieldTexts, written, fields_write h, List.map_map]
  exact List.map_congr_left fun name _ => String.ofList_toList

end Hostlink.Text.Markup
