import Hostlink.Text.Cut

/-!
# Searching past a text

A search for a mark passes over a text in which the mark does not begin, `cut?_skip`. That a mark
does not begin in a text depends on what comes behind, since it may begin at the end of the one and
go on in the other; so `Skips` speaks of both. A text is passed over piece by piece, `Skips.append`,
and for a piece there are four reasons: it can be seen to have nothing of the mark in it, whatever
comes behind (`skips_of_clear`, which is decided); it lacks the first character of the mark; it lacks
some other character, and the mark cannot reach that one in what comes behind (`skips_of_stop`); or
the mark does not stand in it and is not continued behind it (`skips_of_barrier`).
-/

namespace Hostlink.Text

variable {mark a b text rest : List Char}

/-- **The mark begins nowhere in the text** with this rest behind it. -/
def Skips (mark text rest : List Char) : Prop :=
  ∀ s, s <:+ text → s ≠ [] → ¬ mark <+: s ++ rest

/-- The characters of a literal. They are found by unification: it is slow to take a literal apart,
and what is decided of a text looks at each of its characters. -/
def literal (text : String) {chars : List Char} (_spelled : text = String.ofList chars) : List Char :=
  chars

theorem literal_eq {text : String} {chars : List Char} (spelled : text = String.ofList chars) :
    literal text spelled = text.toList := by
  subst spelled
  exact String.toList_ofList.symm

/-! ## Searches -/

theorem cutFrom?_eq (mark before text : List Char) :
    cutFrom? mark before text = (cutFrom? mark [] text).map (Prod.map (before.reverse ++ ·) id) := by
  induction text generalizing before with
  | nil =>
    unfold cutFrom?
    split
    · rw [List.reverse_nil, Option.map_some, Prod.map, List.append_nil]
      rfl
    · rfl
  | cons c text ih =>
    unfold cutFrom?
    split
    · rw [List.reverse_nil, Option.map_some, Prod.map, List.append_nil]
      rfl
    · rw [ih (c :: before), ih [c], Option.map_map]
      congr 1
      funext found
      simp only [Function.comp_apply, Prod.map, List.reverse_cons, List.append_assoc,
        List.reverse_nil, List.nil_append, id]

/-- **A search passes over a text in which the mark does not begin.** By induction on the text. -/
theorem cut?_skip (h : Skips mark text rest) :
    cut? mark (text ++ rest) = (cut? mark rest).map (Prod.map (text ++ ·) id) := by
  induction text with
  | nil => exact Option.map_id'.symm
  | cons c text ih =>
    have here : mark.isPrefixOf (c :: (text ++ rest)) = false := Bool.eq_false_iff.mpr fun begins =>
      h (c :: text) List.suffix_rfl (List.cons_ne_nil _ _) (List.isPrefixOf_iff_prefix.mp begins)
    have later := ih fun s suffix => h s (suffix.trans (List.suffix_cons c text))
    unfold cut? at later ⊢
    rw [List.cons_append, cutFrom?, here, if_neg Bool.false_ne_true, cutFrom?_eq, later,
      Option.map_map]
    rfl

/-- **A search ends at a mark.** -/
theorem cut?_mark (inhabited : mark ≠ []) (rest : List Char) :
    cut? mark (mark ++ rest) = some ([], rest) := by
  obtain ⟨c, tail, rfl⟩ := List.exists_cons_of_ne_nil inhabited
  have here : (c :: tail).isPrefixOf (c :: (tail ++ rest)) = true :=
    List.isPrefixOf_iff_prefix.mpr (List.prefix_append (c :: tail) rest)
  unfold cut?
  rw [List.cons_append, cutFrom?, here, if_pos rfl, ← List.cons_append, List.drop_left]
  rfl

/-- A search ends at the first mark behind a text that it passes over. -/
theorem cut?_skip_mark (inhabited : mark ≠ []) (h : Skips mark text (mark ++ rest)) :
    cut? mark (text ++ (mark ++ rest)) = some (text, rest) := by
  rw [cut?_skip h, cut?_mark inhabited, Option.map_some, Prod.map, List.append_nil]
  rfl

/-- A search fails where the mark begins nowhere. -/
theorem cut?_none (inhabited : mark ≠ []) (h : Skips mark text []) : cut? mark text = none := by
  have passed := cut?_skip h
  have nothing : cut? mark [] = none := if_neg fun empty => inhabited (List.isEmpty_iff.mp empty)
  rwa [List.append_nil, nothing] at passed

theorem occurs_skip (h : Skips mark text rest) : occurs mark (text ++ rest) = occurs mark rest := by
  rw [occurs, cut?_skip h, Option.isSome_map, occurs]

theorem occurs_mark (inhabited : mark ≠ []) (rest : List Char) : occurs mark (mark ++ rest) = true := by
  rw [occurs, cut?_mark inhabited]
  rfl

/-! ## Reasons to pass over a text -/

theorem Skips.nil (rest : List Char) : Skips mark [] rest := by
  intro s suffix inhabited
  exact absurd (List.suffix_nil.mp suffix) inhabited

theorem Skips.append (first : Skips mark a (b ++ rest)) (second : Skips mark b rest) :
    Skips mark (a ++ b) rest := by
  intro s suffix inhabited
  rcases List.suffix_or_suffix_of_suffix suffix (List.suffix_append a b) with within | ⟨s', rfl⟩
  · exact second s within inhabited
  · have part : s' <:+ a := List.suffix_append_self_iff.mp suffix
    by_cases empty : s' = []
    · subst empty
      exact second b List.suffix_rfl inhabited
    · rw [List.append_assoc]
      exact first s' part empty

/-- Nothing of the mark stands in the text: no end of the text begins with the mark or is the
beginning of it. -/
def clear (mark : List Char) : List Char → Bool
  | [] => true
  | c :: text =>
    !mark.isPrefixOf (c :: text) && !(c :: text).isPrefixOf mark && clear mark text

theorem skips_of_clear (h : clear mark text = true) (rest : List Char) : Skips mark text rest := by
  induction text with
  | nil => exact .nil rest
  | cons c text ih =>
    simp only [clear, Bool.and_eq_true, Bool.not_eq_true', Bool.eq_false_iff, ne_eq,
      List.isPrefixOf_iff_prefix] at h
    intro s suffix inhabited begins
    rcases List.suffix_cons_iff.mp suffix with rfl | within
    · -- of two beginnings of one text, one is a beginning of the other
      rcases List.prefix_or_prefix_of_prefix begins (List.prefix_append _ rest) with h' | h'
      · exact h.1.1 h'
      · exact h.1.2 h'
    · exact ih h.2 s within inhabited begins

/-- A text without the first character of the mark. -/
theorem skips_of_head {c : Char} (absent : c ∉ text) (tail rest : List Char) :
    Skips (c :: tail) text rest := by
  intro s suffix inhabited begins
  obtain ⟨first, s, rfl⟩ := List.exists_cons_of_ne_nil inhabited
  obtain ⟨rfl, _⟩ := List.cons_prefix_cons.mp begins
  exact absent (suffix.subset List.mem_cons_self)

/-- A mark that begins in a text and does not end there goes on with the next character. -/
theorem begins_cases {s : List Char} (begins : mark <+: s ++ rest) :
    mark <+: s ∨ ∃ c more, rest.head? = some c ∧ mark = s ++ c :: more := by
  rcases List.prefix_or_prefix_of_prefix begins (List.prefix_append s rest) with within | ⟨m, rfl⟩
  · exact .inl within
  · have next : m <+: rest := (List.prefix_append_right_inj s).mp begins
    cases m with
    | nil =>
      rw [List.append_nil]
      exact .inl List.prefix_rfl
    | cons c more =>
      obtain ⟨behind, rfl⟩ := next
      exact .inr ⟨c, more, rfl, rfl⟩

/-- **A text in which the mark does not stand**, and behind which it is not continued. -/
theorem skips_of_barrier (absent : ¬ mark <:+: text) (behind : ∀ c ∈ rest.head?, c ∉ mark.tail) :
    Skips mark text rest := by
  intro s suffix inhabited begins
  rcases begins_cases begins with within | ⟨c, more, next, rfl⟩
  · exact absent (within.isInfix.trans suffix.isInfix)
  · obtain ⟨first, s, rfl⟩ := List.exists_cons_of_ne_nil inhabited
    exact behind c next (List.mem_append_right s List.mem_cons_self)

/-- **A text without some character of the mark**, behind which that character is not reached: what
comes next is neither that character nor one before it in the mark. -/
theorem skips_of_stop {before after : List Char} {stop : Char} (absent : stop ∉ text)
    (behind : ∀ c ∈ rest.head?, c ∉ before ++ [stop]) :
    Skips (before ++ stop :: after) text rest := by
  intro s suffix inhabited begins
  have absent : stop ∉ s := fun h => absent (suffix.subset h)
  rcases begins_cases begins with within | ⟨c, more, next, same⟩
  · exact absent (within.subset (List.mem_append_right before List.mem_cons_self))
  · -- the text ends before the character does, so the next one is among those up to it
    rcases List.append_eq_append_iff.mp same with ⟨part, rfl, rest⟩ | ⟨part, rfl, rest⟩
    · cases part with
      | nil =>
        obtain ⟨rfl, _⟩ := List.cons.inj rest
        exact behind stop next (List.mem_append_right before List.mem_cons_self)
      | cons first part =>
        obtain ⟨rfl, _⟩ := List.cons.inj rest
        exact absent (List.mem_append_right before List.mem_cons_self)
    · cases part with
      | nil =>
        obtain ⟨rfl, _⟩ := List.cons.inj rest
        exact behind c next (List.mem_append_right _ List.mem_cons_self)
      | cons first part =>
        obtain ⟨rfl, _⟩ := List.cons.inj rest
        exact behind c next
          (List.mem_append_left _ (List.mem_append_right s List.mem_cons_self))

/-- A text without some character of the mark's front, with a character behind it that is not in
that front. -/
theorem skips_of_absent {front : List Char} {c : Char} (within : c ∈ front) (absent : c ∉ text)
    (behind : ∀ d ∈ rest.head?, d ∉ front) (more : List Char) : Skips (front ++ more) text rest := by
  obtain ⟨before, after, rfl⟩ := List.append_of_mem within
  rw [List.append_assoc, List.cons_append]
  refine skips_of_stop absent fun d next among => behind d next ?_
  rcases List.mem_append.mp among with among | among
  · exact List.mem_append_left _ among
  · obtain rfl := List.mem_singleton.mp among
    exact within

/-! ## Places -/

/-- **A mark that begins nowhere before and nowhere behind stands in one place.** -/
theorem place_unique {before after : List Char} (inhabited : mark ≠ [])
    (front : Skips mark text (mark ++ rest)) (back : Skips mark (mark.tail ++ rest) [])
    (same : text ++ (mark ++ rest) = before ++ (mark ++ after)) : before = text ∧ after = rest := by
  rcases List.append_eq_append_iff.mp same with ⟨later, rfl, behind⟩ | ⟨part, rfl, behind⟩
  · cases later with
    | nil => exact ⟨List.append_nil text, (List.append_cancel_left behind).symm⟩
    | cons c later =>
      obtain ⟨first, tail, rfl⟩ := List.exists_cons_of_ne_nil inhabited
      obtain ⟨rfl, within⟩ := List.cons.inj behind
      refine (back (first :: tail ++ after) ⟨later, within.symm⟩ (List.cons_ne_nil _ _) ?_).elim
      rw [List.append_nil]
      exact List.prefix_append _ _
  · cases part with
    | nil => exact ⟨(List.append_nil before).symm, List.append_cancel_left behind⟩
    | cons c part =>
      refine (front (c :: part) (List.suffix_append _ _) (List.cons_ne_nil _ _) ?_).elim
      exact ⟨after, behind⟩

end Hostlink.Text
