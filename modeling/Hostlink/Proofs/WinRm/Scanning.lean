import Hostlink.Proofs.Text.Offsets
import Hostlink.Proofs.WinRm.Reading
import Mathlib.Data.List.Chain
import Mathlib.Data.List.Sort

/-!
# Replies by their offsets

A reply is read by searches, and each search goes on from the offset at which the one before it has
ended. The readings of `Reply` take texts apart instead. Here they are done by offsets, and every
slice may be refused: one that leaves the text, one whose ends are not in order, and one that cuts a
character in two. Both come to the same on every text, so no slice is refused, `replies_read_safely`.
Nor can a sum of offsets run over: each of them is an end of a slice, and so within the text.

The search for the elements of a stream is a loop. Each `Round` finds an opening and leads on to a
position behind it, or it ends the loop, `round?_leads`; the rounds of a whole search follow from that
by induction, `rounds?_of_stands`. So there are no more rounds than there are openings in the text,
and no opening is met twice, `IsSearch.openings_sublist`. Only a tag without an end leaves the
position where it is, and then the loop is left.
-/

namespace Hostlink.WinRm

open Text
open Utf8 (octets size)

/-! ## Searches -/

/-- The offset of a mark in what stands behind an offset of a text. -/
def seek? (mark text : List Char) (offset : Nat) : Option (Option Nat) :=
  (behind? text offset).map (offset? mark)

section Places

variable {text rest a b mark : List Char} {offset : Nat}

/-- From a place a search finds what a cut finds. -/
theorem seek?_eq (h : Stands text offset rest) (inhabited : mark ≠ []) :
    seek? mark text offset = some ((cut? mark rest).map fun found => size found.1) := by
  rw [seek?, h.behind?_eq, Option.map_some, offset?_eq inhabited]

/-- **What is found from a place**: the place of the mark and the one behind it, and what stands before
the mark can be taken. -/
theorem places_of_cut? (h : Stands text offset rest) (cut : cut? mark rest = some (a, b)) :
    Stands text (offset + size a) (mark ++ b) ∧ Stands text (offset + size a + size mark) b ∧
      part? text offset (offset + size a) = some a := by
  obtain rfl := eq_append_of_cut? cut
  rw [List.append_assoc] at h
  exact ⟨h.further, h.further.further, h.part?_eq⟩

end Places

/-! ## Elements -/

/-- The text between the end of a tag that begins with a mark and another mark, by offsets. -/
def insideAt? (opening closing text : List Char) : Option (Option (List Char)) := do
  let some start := offset? opening text | return none
  let some length ← seek? ['>'] text start | return none
  let content := start + length + 1
  let some length ← seek? closing text content | return none
  return some (← part? text content (content + length))

/-- The same by cuts, the end of the tag being sought from where the tag begins. -/
def inside? (opening closing text : List Char) : Option (List Char) := do
  let (_, rest) ← cut? opening text
  let (_, rest) ← cut? ['>'] (opening ++ rest)
  let (content, _) ← cut? closing rest
  return content

theorem insideAt?_eq {opening closing : List Char} (opens : opening ≠ []) (closes : closing ≠ [])
    (text : List Char) : insideAt? opening closing text = some (inside? opening closing text) := by
  rw [insideAt?, inside?, offset?_eq opens]
  cases first : cut? opening text with
  | none => rfl
  | some found =>
    obtain ⟨before, after⟩ := found
    have tag : Stands text (size before) (opening ++ after) := by
      simpa using (places_of_cut? (Stands.start text) first).1
    simp only [Option.map_some, Option.bind_eq_bind, Option.bind_some,
      seek?_eq tag (List.cons_ne_nil '>' [])]
    cases second : cut? ['>'] (opening ++ after) with
    | none => rfl
    | some found =>
      obtain ⟨inside, rest⟩ := found
      have content : Stands text (size before + size inside + 1) rest :=
        (places_of_cut? tag second).2.1
      simp only [Option.map_some, Option.bind_some, seek?_eq content closes]
      cases third : cut? closing rest with
      | none => rfl
      | some found =>
        simp only [Option.map_some, (places_of_cut? content third).2.2, Option.bind_some]
        rfl

/-- The text inside the first element whose tag starts with `tag`, by offsets. -/
def elementAt? (tag : String) (text : List Char) : Option (Option (List Char)) :=
  insideAt? ('<' :: tag.toList) (['<', '/'] ++ tag.toList ++ ['>']) text

/-- The shell's identifier in a selector, by offsets. -/
def selectedShellAt? (text : List Char) : Option (Option (List Char)) := do
  let some found := offset? shellMark text | return none
  let start := found + size shellMark
  let some length ← seek? ['<', '/'] text start | return none
  return some (← part? text start (start + length))

theorem selectedShellAt?_eq (text : List Char) :
    selectedShellAt? text = some (selectedShell? text) := by
  have inhabited : shellMark ≠ [] := List.cons_ne_nil _ _
  rw [selectedShellAt?, selectedShell?, offset?_eq inhabited]
  cases first : cut? shellMark text with
  | none => rfl
  | some found =>
    obtain ⟨before, after⟩ := found
    have content : Stands text (size before + size shellMark) after := by
      simpa using (places_of_cut? (Stands.start text) first).2.1
    simp only [Option.map_some, Option.bind_eq_bind, Option.bind_some,
      seek?_eq content (List.cons_ne_nil '<' ['/'])]
    cases second : cut? ['<', '/'] after with
    | none => rfl
    | some found =>
      simp only [Option.map_some, (places_of_cut? content second).2.2, Option.bind_some]
      rfl

/-- **No slice is refused** in a search for an element, and what is found is its text, if the end of
the tag is not in its name. -/
theorem elementAt?_eq {tag : String} (name : '>' ∉ tag.toList) (text : List Char) :
    elementAt? tag text = some (elementText? tag text) := by
  have passes (rest : List Char) : Skips ['>'] ('<' :: tag.toList) rest :=
    skips_of_head (List.not_mem_cons_of_ne_of_not_mem (by decide) name) [] rest
  have closes : ['<', '/'] ++ tag.toList ++ ['>'] ≠ [] := List.cons_ne_nil _ _
  rw [elementAt?, insideAt?_eq (List.cons_ne_nil _ _) closes, inside?, elementText?]
  simp only [cut?_skip (passes _), Option.bind_eq_bind, Option.bind_map]
  rfl

/-! ## Rounds -/

/-- Where a round of the search for a stream's elements leads. -/
inductive Sequel where
  /-- The tag has no end: the search is over. -/
  | unended
  /-- The element has no end: the search is over. -/
  | unclosed (next : Nat)
  /-- The content stands for no octets: the search fails. -/
  | failed (next : Nat) (fault : Base64.Fault)
  /-- The element stands for octets: the search goes on behind them. -/
  | on (next : Nat) (bytes : Bytes)

/-- The position that is moved to. Only a tag without an end leaves the position where it is. -/
def Sequel.next? : Sequel → Option Nat
  | unended => none
  | unclosed next | failed next _ | on next _ => some next

/-- **A round of the search for a stream's elements**: the position that it begins with, where the
opening stands that it finds, and where it leads. -/
structure Round where
  start : Nat
  opening : Nat
  sequel : Sequel

/-- What a round makes of the content of an element that begins at an offset. -/
def contentSequel? (text : List Char) (start : Nat) : Option Sequel := do
  let some length ← seek? streamClosing text start | return .unclosed start
  let content := trimChars (← part? text start (start + length))
  if content.isEmpty then return .on (start + length) []
  match Base64.decode (octets content) with
  | .ok bytes => return .on (start + length) bytes
  | .error fault => return .failed start fault

/-- What a round makes of the element whose opening stands at an offset. -/
def openingSequel? (text : List Char) (opening : Nat) : Option Sequel := do
  let some length ← seek? ['>'] text opening | return .unended
  let tagEnd := opening + length
  let tag ← part? text 0 tagEnd
  if tag.getLast? = some '/' then return .on (tagEnd + 1) []
  contentSequel? text (tagEnd + 1)

/-- The round that begins with a position, unless no opening stands behind it. -/
def round? (name : String) (text : List Char) (start : Nat) : Option (Option Round) := do
  let some found ← seek? (streamOpening name) text start | return none
  return some ⟨start, start + found, ← openingSequel? text (start + found)⟩

/-- The rounds that are made from a position on, no more than a number of them, and the octets that
come of it. There is no answer if a slice is refused or a further round would be needed. -/
def rounds? (name : String) (text : List Char) :
    Nat → Nat → Bytes → Option (List Round × Except Base64.Fault Bytes)
  | 0, start, out => do
    match ← round? name text start with
    | none => return ([], .ok out)
    | some _ => none
  | budget + 1, start, out => do
    match ← round? name text start with
    | none => return ([], .ok out)
    | some round =>
      match round.sequel with
      | .unended | .unclosed _ => return ([round], .ok out)
      | .failed _ fault => return ([round], .error fault)
      | .on next bytes =>
        let (rounds, result) ← rounds? name text budget next (out ++ bytes)
        return (round :: rounds, result)

/-- The offsets at which a stream's openings stand. -/
def openings (name : String) (text : List Char) : List Nat :=
  (List.range (size text)).filter fun i =>
    (octets (streamOpening name)).isPrefixOf ((octets text).drop i)

/-- The octets of one stream in a reply, with the rounds that are made to find them: as many as there
are openings. -/
def streamAt? (name reply : String) : Option (List Round × Attempt Bytes) := do
  let text := reply.toList
  let (rounds, result) ← rounds? name text (openings name text).length 0 []
  return (rounds, result.mapError fun fault => .encoding s!"Invalid {name} stream: {fault.message}")

/-! ## What a round comes to -/

/-- What the reader makes of the content of an element and of what comes behind it. -/
def contentParts (name : String) (acc : List Bytes) (text : List Char) :
    Except Base64.Fault (List Bytes) :=
  match cut? streamClosing text with
  | none => .ok acc
  | some (content, more) =>
    if (trimChars content).isEmpty then streamParts name acc more
    else
      match Base64.decode (octets (trimChars content)) with
      | .ok bytes => streamParts name (bytes :: acc) more
      | .error fault => .error fault

/-- What the reader makes of a text that begins with an opening. -/
def openingParts (name : String) (acc : List Bytes) (text : List Char) :
    Except Base64.Fault (List Bytes) :=
  match cut? ['>'] text with
  | none => .ok acc
  | some (tag, rest) =>
    if tag.getLast? = some '/' then streamParts name acc rest else contentParts name acc rest

/-- The reader goes on from the first opening. The cases are those of the reader. -/
theorem streamParts_eq (name : String) (acc : List Bytes) (text : List Char) :
    streamParts name acc text =
      match cut? (streamOpening name) text with
      | none => .ok acc
      | some (_, after) => openingParts name acc (streamOpening name ++ after) := by
  fun_cases streamParts name acc text with
  | case1 hOpen => simp only [hOpen]
  | case2 _ after hOpen hTag => simp only [hOpen, openingParts, hTag]
  | case3 _ after hOpen tag rest hTag closed =>
    simp only [hOpen, openingParts, hTag, if_pos closed]
  | case4 _ after hOpen tag rest hTag closed hClose =>
    simp only [hOpen, openingParts, hTag, if_neg closed, contentParts, hClose]
  | case5 _ after hOpen tag rest hTag closed content more hClose _ empty =>
    simp only [hOpen, openingParts, hTag, if_neg closed, contentParts, hClose]
    exact (if_pos empty).symm
  | case6 _ after hOpen tag rest hTag closed content more hClose _ some bytes read =>
    simp only [hOpen, openingParts, hTag, if_neg closed, contentParts, hClose]
    rw [Utf8.encode_ofList] at read
    exact ((if_neg some).trans (by rw [read])).symm
  | case7 _ after hOpen tag rest hTag closed content more hClose _ some fault broken =>
    simp only [hOpen, openingParts, hTag, if_neg closed, contentParts, hClose]
    rw [Utf8.encode_ofList] at broken
    exact ((if_neg some).trans (by rw [broken])).symm

/-- How an opening begins. -/
theorem streamOpening_eq (name : String) :
    streamOpening name = '<' :: 'r' :: (literal "sp:Stream Name=\"" rfl ++ name.toList ++ ['"']) := by
  have front : "<rsp:Stream Name=\"".toList = '<' :: 'r' :: literal "sp:Stream Name=\"" rfl :=
    (literal_eq rfl).symm
  unfold streamOpening
  rw [front]
  simp only [List.cons_append]

/-- An opening does not begin in a closing tag. -/
theorem skips_streamClosing (name : String) (rest : List Char) :
    Skips (streamOpening name) streamClosing rest := by
  have closing : streamClosing = '<' :: '/' :: literal "rsp:Stream>" rfl := (literal_eq rfl).symm
  have plain : '<' ∉ '/' :: literal "rsp:Stream>" rfl := by decide
  rw [streamOpening_eq, closing]
  intro s suffix inhabited begins
  rcases List.suffix_cons_iff.mp suffix with rfl | within
  · simp only [List.cons_append, List.cons_prefix_cons] at begins
    exact absurd begins.2.1 (by decide)
  · exact skips_of_head plain _ rest s within inhabited begins

theorem streamParts_skip {name : String} {text rest : List Char}
    (h : Skips (streamOpening name) text rest) (acc : List Bytes) :
    streamParts name acc (text ++ rest) = streamParts name acc rest := by
  rw [streamParts_eq, streamParts_eq, cut?_skip h]
  cases cut? (streamOpening name) rest <;> rfl

/-- **Where a round leads**, and what the reader makes of the same text: it stops where the round ends
the search, and otherwise it goes on from the place that the round leads to, which lies behind the
opening. -/
inductive Leads (name : String) (text : List Char) (opening : Nat) (acc : List Bytes) :
    Sequel → Except Base64.Fault (List Bytes) → Prop
  | unended {rest : List Char} (place : Stands text opening rest) (endless : '>' ∉ rest) :
    Leads name text opening acc .unended (.ok acc)
  | unclosed {next : Nat} {rest : List Char} (forward : opening < next)
      (place : Stands text next rest) : Leads name text opening acc (.unclosed next) (.ok acc)
  | failed {next : Nat} {rest : List Char} {fault : Base64.Fault} (forward : opening < next)
      (place : Stands text next rest) :
    Leads name text opening acc (.failed next fault) (.error fault)
  | on {next : Nat} {rest : List Char} {bytes : Bytes} {acc' : List Bytes}
      (forward : opening < next) (place : Stands text next rest)
      (gathered : acc'.reverse.flatten = acc.reverse.flatten ++ bytes) :
    Leads name text opening acc (.on next bytes) (streamParts name acc' rest)

section Sequels

variable {name : String} {text rest : List Char} {start opening : Nat}

/-- What is made of a content leads on to the closing tag, in which no opening begins. -/
theorem contentSequel?_leads (place : Stands text start rest) (forward : opening < start)
    (acc : List Bytes) : ∃ sequel, contentSequel? text start = some sequel ∧
      Leads name text opening acc sequel (contentParts name acc rest) := by
  rw [contentSequel?, seek?_eq place streamClosing_ne_nil, contentParts]
  cases cut : cut? streamClosing rest with
  | none => exact ⟨_, rfl, .unclosed forward place⟩
  | some found =>
    obtain ⟨content, more⟩ := found
    obtain ⟨closing, -, part⟩ := places_of_cut? place cut
    have later : opening < start + size content := Nat.lt_add_right _ forward
    have onward (acc : List Bytes) := streamParts_skip (skips_streamClosing name more) acc
    simp only [Option.map_some, Option.bind_eq_bind, Option.bind_some, part]
    by_cases empty : (trimChars content).isEmpty = true
    · rw [if_pos empty, if_pos empty, ← onward]
      exact ⟨_, rfl, .on later closing (List.append_nil _).symm⟩
    rw [if_neg empty, if_neg empty]
    cases Base64.decode (octets (trimChars content)) with
    | error fault => exact ⟨_, rfl, .failed forward place⟩
    | ok bytes =>
      dsimp only
      rw [← onward]
      exact ⟨_, rfl, .on later closing (by
        rw [List.reverse_cons, List.flatten_append, List.flatten_singleton])⟩

/-- The text up to the end of a tag can be taken, and ends as the tag does. -/
theorem front_of_tag {element tag : List Char} (place : Stands text opening element)
    (cut : cut? ['>'] element = some (tag, rest)) (inhabited : tag ≠ []) :
    ∃ front, part? text 0 (opening + size tag) = some front ∧ front.getLast? = tag.getLast? := by
  obtain ⟨before, rfl, rfl⟩ := place
  obtain rfl := eq_append_of_cut? cut
  have whole : before ++ (tag ++ ['>'] ++ rest) = (before ++ tag) ++ (['>'] ++ rest) := by
    simp only [List.append_assoc]
  have taken := (Stands.start (before ++ tag ++ (['>'] ++ rest))).part?_eq
  rw [Nat.zero_add, Utf8.size_append] at taken
  exact ⟨before ++ tag, whole ▸ taken, List.getLast?_append_of_ne_nil _ inhabited⟩

theorem not_mem_of_cut?_none {c : Char} (h : cut? [c] text = none) : c ∉ text := fun among => by
  obtain ⟨before, rest, rfl⟩ := List.append_of_mem among
  obtain ⟨a, b, cut, -⟩ := cut?_first (List.cons_ne_nil c []) before rest
  cases h.symm.trans cut

/-- What is made of an opening leads behind it. -/
theorem openingSequel?_leads {after : List Char}
    (place : Stands text opening (streamOpening name ++ after)) (acc : List Bytes) : ∃ sequel, openingSequel? text opening = some sequel ∧
      Leads name text opening acc sequel (openingParts name acc (streamOpening name ++ after)) := by
  rw [openingSequel?, seek?_eq place (List.cons_ne_nil '>' []), openingParts]
  cases cut : cut? ['>'] (streamOpening name ++ after) with
  | none => exact ⟨_, rfl, .unended place (not_mem_of_cut?_none cut)⟩
  | some found =>
    obtain ⟨tag, rest⟩ := found
    have behind : Stands text (opening + size tag + 1) rest := (places_of_cut? place cut).2.1
    have forward : opening < opening + size tag + 1 := Nat.lt_succ_of_le (Nat.le_add_right _ _)
    -- an opening does not begin as a tag ends
    have inhabited : tag ≠ [] := by
      rintro rfl
      have same := congrArg List.head? (eq_append_of_cut? cut)
      rw [streamOpening_eq] at same
      exact absurd (Option.some.inj same) (by decide)
    obtain ⟨front, taken, last⟩ := front_of_tag place cut inhabited
    simp only [Option.map_some, Option.bind_eq_bind, Option.bind_some, taken, last]
    by_cases closed : tag.getLast? = some '/'
    · rw [if_pos closed, if_pos closed]
      exact ⟨_, rfl, .on forward behind (List.append_nil _).symm⟩
    · rw [if_neg closed, if_neg closed]
      exact contentSequel?_leads behind forward acc

/-- **A round is made from every place**, and it leads where the reader goes. -/
theorem round?_leads (name : String) (place : Stands text start rest) (acc : List Bytes) :
    (round? name text start = some none ∧ streamParts name acc rest = .ok acc) ∨
      ∃ round after, round? name text start = some (some round) ∧ round.start = start ∧
        start ≤ round.opening ∧ Stands text round.opening (streamOpening name ++ after) ∧
        Leads name text round.opening acc round.sequel (streamParts name acc rest) := by
  rw [round?, seek?_eq place (streamOpening_ne_nil name), streamParts_eq]
  cases cut : cut? (streamOpening name) rest with
  | none => exact .inl ⟨rfl, rfl⟩
  | some found =>
    obtain ⟨before, after⟩ := found
    have stands := (places_of_cut? place cut).1
    obtain ⟨sequel, made, leads⟩ := openingSequel?_leads stands acc
    simp only [Option.map_some, Option.bind_eq_bind, Option.bind_some, made]
    exact .inr ⟨_, after, rfl, rfl, Nat.le_add_right _ _, stands, leads⟩

end Sequels

/-! ## All rounds -/

/-- **A round goes forward**: its opening does not stand before the position that it begins with, and
the position that it moves to lies behind the opening, within the text and between characters. It
moves nowhere only if there is no end of a tag behind the opening. -/
structure Round.Advances (name : String) (text : List Char) (r : Round) : Prop where
  opens : octets (streamOpening name) <+: (octets text).drop r.opening
  order : r.start ≤ r.opening
  forward : ∀ next ∈ r.sequel.next?,
    r.opening < next ∧ next ≤ size text ∧ Utf8.isBoundary (octets text) next = true
  stays : r.sequel.next? = none → ∃ rest, Stands text r.opening rest ∧ '>' ∉ rest

/-- **Rounds of one search**: each goes forward, the first one begins where the search does, and each
other one where the one before it has moved to. -/
structure IsSearch (name : String) (text : List Char) (start : Nat) (rounds : List Round) : Prop where
  advances : ∀ r ∈ rounds, r.Advances name text
  begins : ∀ r ∈ rounds.head?, r.start = start
  chained : rounds.IsChain fun r later => r.sequel.next? = some later.start

section Search

variable {name : String} {text rest : List Char} {start : Nat} {rounds : List Round}

theorem IsSearch.nil (name : String) (text : List Char) (start : Nat) : IsSearch name text start [] :=
  ⟨List.forall_mem_nil _, nofun, List.isChain_nil⟩

theorem IsSearch.last {r : Round} (h : r.Advances name text) : IsSearch name text r.start [r] :=
  ⟨List.forall_mem_singleton.mpr h, fun _ first => Option.some.inj first ▸ rfl,
    List.isChain_singleton r⟩

theorem IsSearch.cons {r : Round} {next : Nat} (h : r.Advances name text)
    (moved : r.sequel.next? = some next) (more : IsSearch name text next rounds) :
    IsSearch name text r.start (r :: rounds) where
  advances := List.forall_mem_cons.mpr ⟨h, more.advances⟩
  begins := fun _ first => Option.some.inj first ▸ rfl
  chained := List.isChain_cons.mpr
    ⟨fun later first => (more.begins later first).symm ▸ moved, more.chained⟩

/-- A round that leads somewhere goes forward. -/
theorem advances_of_leads {r : Round} {after : List Char} {acc : List Bytes}
    {result : Except Base64.Fault (List Bytes)} (order : r.start ≤ r.opening)
    (stands : Stands text r.opening (streamOpening name ++ after))
    (leads : Leads name text r.opening acc r.sequel result) : r.Advances name text := by
  obtain ⟨start, opening, sequel⟩ := r
  have opens : octets (streamOpening name) <+: (octets text).drop opening := by
    obtain ⟨before, whole, place⟩ := stands
    exact (Utf8.starts_iff (streamOpening_ne_nil name)).mpr ⟨before, after, whole, place⟩
  have moved {next : Nat} {rest : List Char} (forward : opening < next)
      (place : Stands text next rest) :
      opening < next ∧ next ≤ size text ∧ Utf8.isBoundary (octets text) next = true :=
    ⟨forward, place.le_size, place.isBoundary⟩
  dsimp only at leads
  cases leads with
  | unended place endless => exact ⟨opens, order, nofun, fun _ => ⟨_, place, endless⟩⟩
  | unclosed forward place | failed forward place | on forward place =>
    exact ⟨opens, order, fun _ next => Option.some.inj next ▸ moved forward place, nofun⟩

/-- **The rounds of a search** are made without a slice that is refused, in any number of rounds that is
large enough, and they come to what the reader comes to. By induction on how much of the text is left:
a round after which the search goes on leads behind its opening. -/
theorem rounds?_of_stands (name : String) (place : Stands text start rest) (acc : List Bytes) :
    ∃ rounds, IsSearch name text start rounds ∧ ∀ spare,
      rounds? name text (rounds.length + spare) start acc.reverse.flatten =
        some (rounds, (streamParts name acc rest).map fun parts => parts.reverse.flatten) := by
  induction left : size text - start using Nat.strongRecOn generalizing start rest acc with
  | _ left ih =>
    rcases round?_leads name place acc with
      ⟨stopped, result⟩ | ⟨round, after, made, rfl, order, stands, leads⟩
    · refine ⟨[], .nil name text start, fun spare => ?_⟩
      rw [result, List.length_nil, Nat.zero_add]
      cases spare <;> rw [rounds?, stopped] <;> rfl
    have advances := advances_of_leads order stands leads
    obtain ⟨start, opening, sequel⟩ := round
    generalize streamParts name acc rest = result at leads
    dsimp only at *
    cases leads with
    | unended | unclosed | failed =>
      refine ⟨_, .last advances, fun spare => ?_⟩
      rw [List.length_singleton, Nat.add_comm, rounds?, made]
      rfl
    | @on next rest' bytes acc' forward place' gathered =>
      obtain ⟨rounds, search, made'⟩ := ih (size text - next) (by
        have := place'.le_size
        omega) place' acc' rfl
      refine ⟨_, .cons advances rfl search, fun spare => ?_⟩
      rw [List.length_cons, Nat.add_right_comm, rounds?, made]
      dsimp only [Option.bind_eq_bind, Option.bind_some]
      rw [← gathered, made']
      rfl

/-- The openings that a search finds are openings of the text, each found once and in order. -/
theorem IsSearch.openings_sublist (search : IsSearch name text start rounds) :
    (rounds.map Round.opening).Sublist (openings name text) := by
  have inOrder : (rounds.map Round.opening).Pairwise (· < ·) := by
    refine List.IsChain.pairwise ((List.isChain_map _).mpr ?_)
    refine search.chained.imp_of_mem_tail_imp fun r later among behind moved => ?_
    have forward := ((search.advances r among).forward _ moved).1
    exact Nat.lt_of_lt_of_le forward (search.advances later (List.mem_of_mem_tail behind)).order
  have found : ∀ i ∈ rounds.map Round.opening, i ∈ openings name text := by
    refine List.forall_mem_map.mpr fun r among => ?_
    have opens := (search.advances r among).opens
    refine List.mem_filter.mpr ⟨List.mem_range.mpr ?_, List.isPrefixOf_iff_prefix.mpr opens⟩
    refine Nat.lt_of_not_le fun beyond => ?_
    rw [List.drop_of_length_le beyond, List.prefix_nil] at opens
    exact Utf8.octets_ne_nil (streamOpening_ne_nil name) opens
  refine List.sublist_of_subperm_of_pairwise (r := (· ≤ ·)) ?_ ?_ ?_
  · exact List.subperm_of_subset (inOrder.imp Nat.ne_of_lt) found
  · exact inOrder.imp Nat.le_of_lt
  · exact (List.pairwise_lt_range.imp Nat.le_of_lt).filter _

end Search

/-! ## Whole replies -/

/-- The octets of one stream in a reply, with the rounds that it takes to find them. -/
theorem streamAt?_eq (name reply : String) : ∃ rounds,
    streamAt? name reply = some (rounds, decodeStream name reply) ∧
      IsSearch name reply.toList 0 rounds ∧
      (rounds.map Round.opening).Sublist (openings name reply.toList) := by
  obtain ⟨rounds, search, made⟩ := rounds?_of_stands name (Stands.start reply.toList) []
  have once := search.openings_sublist
  refine ⟨rounds, ?_, search, once⟩
  have enough := once.length_le
  rw [List.length_map] at enough
  obtain ⟨spare, number⟩ := Nat.exists_eq_add_of_le enough
  have result := made spare
  rw [← number, List.reverse_nil, List.flatten_nil] at result
  rw [streamAt?, decodeStream]
  dsimp only
  rw [result]
  cases streamParts name [] reply.toList <;> rfl

/-- The first of two searches that finds something. -/
def first? {α : Type} (one other : Option (Option α)) : Option (Option α) := do
  match ← one with
  | some found => return some found
  | none => other

theorem first?_some {α : Type} (one other : Option α) :
    first? (some one) (some other) = some (one.or other) := by
  cases one <;> rfl

/-- The identifier of a shell in a reply, by offsets. -/
def shellIdAt? (reply : String) : Option (Attempt String) := do
  let text := reply.toList
  match ← first? (elementAt? "rsp:ShellId" text) (selectedShellAt? text) with
  | some id =>
    let id := trimChars id
    if id.isEmpty then return .error (.shellCreation "Failed to parse shell ID from response")
    else return .ok (String.ofList id)
  | none => return .error (.shellCreation "Failed to parse shell ID from response")

/-- The identifier of a command in a reply, by offsets. -/
def commandIdAt? (reply : String) : Option (Attempt String) := do
  match ← elementAt? "rsp:CommandId" reply.toList with
  | some id => return .ok (String.ofList (trimChars id))
  | none => return .error (.execution "Failed to parse command ID from response")

/-- The code of a command, from the text of the element that states it. -/
def exitCode : Option (List Char) → Attempt (Option Int32)
  | none => .ok none
  | some code =>
    match Integer.readInt32 (trimChars code) with
    | .ok n => .ok (some n)
    | .error fault =>
      let shown := quoted (String.ofList code)
      .error (.execution s!"Invalid exit code {shown}: {fault.message}")

/-- What a reply to a poll brings, by offsets. -/
def receiveChunkAt? (reply : String) : ExceptT LinkFault Option Chunk := do
  let text := reply.toList
  let stdout ← ExceptT.mk ((streamAt? "stdout" reply).map (·.2))
  let stderr ← ExceptT.mk ((streamAt? "stderr" reply).map (·.2))
  let done := (offset? doneMark text).isSome
  let exitCode ← ExceptT.mk ((elementAt? "rsp:ExitCode" text).map exitCode)
  return { stdout, stderr, done, exitCode }

/-- The reason that a fault gives, by offsets. -/
def faultReasonAt? (reply : String) : Option String := do
  let text := reply.toList
  let reason ← first? (elementAt? "s:Text" text) (elementAt? "f:Message" text)
  return String.ofList (trimChars (reason.getD text))

section Replies

variable (reply : String)

theorem shellIdAt?_eq : shellIdAt? reply = some (shellId reply) := by
  rw [shellIdAt?, shellId]
  dsimp only
  rw [elementAt?_eq (by decide), selectedShellAt?_eq, first?_some]
  cases (elementText? "rsp:ShellId" reply.toList).or (selectedShell? reply.toList) with
  | none => rfl
  | some id =>
    dsimp only [Option.bind_eq_bind, Option.bind_some]
    split <;> rfl

theorem commandIdAt?_eq : commandIdAt? reply = some (commandId reply) := by
  rw [commandIdAt?, commandId, elementAt?_eq (by decide)]
  cases elementText? "rsp:CommandId" reply.toList <;> rfl

theorem faultReasonAt?_eq : faultReasonAt? reply = some (faultReason reply) := by
  rw [faultReasonAt?, faultReason, elementAt?_eq (by decide), elementAt?_eq (by decide), first?_some]
  rfl

/-- A reply is read in three steps, each of which can fail. -/
theorem receiveChunk_eq : receiveChunk reply = (do
    let stdout ← decodeStream "stdout" reply
    let stderr ← decodeStream "stderr" reply
    let code ← exitCode (elementText? "rsp:ExitCode" reply.toList)
    return ⟨stdout, stderr, code, occurs doneMark reply.toList⟩) := by
  unfold receiveChunk
  cases decodeStream "stdout" reply with
  | error fault => rfl
  | ok stdout =>
    cases decodeStream "stderr" reply with
    | error fault => rfl
    | ok stderr =>
      dsimp only [bind, Except.bind]
      cases elementText? "rsp:ExitCode" reply.toList with
      | none => rfl
      | some code =>
        dsimp only [exitCode]
        cases Integer.readInt32 (trimChars code) <;> rfl

theorem receiveChunkAt?_eq : (receiveChunkAt? reply).run = some (receiveChunk reply) := by
  obtain ⟨_, out, -⟩ := streamAt?_eq "stdout" reply
  obtain ⟨_, err, -⟩ := streamAt?_eq "stderr" reply
  have code : elementAt? "rsp:ExitCode" reply.toList =
      some (elementText? "rsp:ExitCode" reply.toList) := elementAt?_eq (by decide) _
  have done : (offset? doneMark reply.toList).isSome = occurs doneMark reply.toList := by
    rw [offset?_eq sought_done.inhabited, Option.isSome_map, occurs]
  rw [receiveChunk_eq, receiveChunkAt?]
  dsimp only
  rw [out, err, code, done, Option.map_some, Option.map_some, Option.map_some]
  cases decodeStream "stdout" reply with
  | error fault => rfl
  | ok stdout =>
    cases decodeStream "stderr" reply with
    | error fault => rfl
    | ok stderr => cases exitCode (elementText? "rsp:ExitCode" reply.toList) <;> rfl

/-! ## Answers -/

/-- **An answer of a reading**: a value, or one of the faults that are declared for it. -/
inductive IsAnswer {α : Type} (Declared : LinkFault → Prop) : Attempt α → Prop
  | value (a : α) : IsAnswer Declared (.ok a)
  | fault {fault : LinkFault} (h : Declared fault) : IsAnswer Declared (.error fault)

/-- The faults of a reply to a poll: the content of an element that stands for no octets, and a code
that is no number of 32 bits. -/
inductive PollFault : LinkFault → Prop
  | stream (s : OutputStream) (fault : Base64.Fault) :
    PollFault (.encoding s!"Invalid {s.name} stream: {fault.message}")
  | code (text : String) (fault : Integer.Fault) :
    PollFault (.execution s!"Invalid exit code {quoted text}: {fault.message}")

theorem shellId_isAnswer :
    IsAnswer (· = .shellCreation "Failed to parse shell ID from response") (shellId reply) := by
  rw [shellId]
  dsimp only
  split
  · split
    · exact .fault rfl
    · exact .value _
  · exact .fault rfl

theorem commandId_isAnswer :
    IsAnswer (· = .execution "Failed to parse command ID from response") (commandId reply) := by
  rw [commandId]
  split
  · exact .value _
  · exact .fault rfl

theorem exitCode_isAnswer (found : Option (List Char)) : IsAnswer PollFault (exitCode found) := by
  cases found with
  | none => exact .value none
  | some code =>
    rw [exitCode]
    split
    · exact .value _
    · exact .fault (.code _ _)

theorem pollFault_of_decodeStream (s : OutputStream) {fault : LinkFault}
    (h : decodeStream s.name reply = .error fault) : PollFault fault := by
  obtain ⟨_, _, cause, _, rfl⟩ := content_of_decodeStream h
  exact .stream s cause

theorem receiveChunk_isAnswer : IsAnswer PollFault (receiveChunk reply) := by
  rw [receiveChunk_eq]
  cases out : decodeStream "stdout" reply with
  | error fault => exact .fault (pollFault_of_decodeStream reply .stdout out)
  | ok stdout =>
    cases err : decodeStream "stderr" reply with
    | error fault => exact .fault (pollFault_of_decodeStream reply .stderr err)
    | ok stderr =>
      have answer := exitCode_isAnswer (elementText? "rsp:ExitCode" reply.toList)
      cases code : exitCode (elementText? "rsp:ExitCode" reply.toList) with
      | error fault =>
        rw [code] at answer
        cases answer with
        | fault declared => exact .fault declared
      | ok code => exact .value _

end Replies

/-- **A reply is read safely.** -/
structure ReadSafely (name reply : String) : Prop where
  /-- The search for a stream's elements is over after as many rounds as there are openings or fewer.
  Every round goes forward, and the openings that they find are different ones of the text. -/
  stream : ∃ rounds, streamAt? name reply = some (rounds, decodeStream name reply) ∧
    IsSearch name reply.toList 0 rounds ∧
    (rounds.map Round.opening).Sublist (openings name reply.toList) ∧
    rounds.length ≤ (openings name reply.toList).length
  /-- No slice is refused in the search for an element, whatever its name. If the end of the tag is not
  in the name, then the text of the element is found. -/
  element : ∀ tag : String, ∃ found, elementAt? tag reply.toList = some found ∧
    ('>' ∉ tag.toList → found = elementText? tag reply.toList)
  selected : selectedShellAt? reply.toList = some (selectedShell? reply.toList)
  shell : shellIdAt? reply = some (shellId reply) ∧
    IsAnswer (· = .shellCreation "Failed to parse shell ID from response") (shellId reply)
  command : commandIdAt? reply = some (commandId reply) ∧
    IsAnswer (· = .execution "Failed to parse command ID from response") (commandId reply)
  chunk : (receiveChunkAt? reply).run = some (receiveChunk reply) ∧
    IsAnswer PollFault (receiveChunk reply)
  reason : faultReasonAt? reply = some (faultReason reply)

/-- **Every reply is read safely**, whatever text it is, and for every name of a stream. -/
theorem replies_read_safely (name reply : String) : ReadSafely name reply where
  stream := by
    obtain ⟨rounds, made, search, once⟩ := streamAt?_eq name reply
    have few := once.length_le
    rw [List.length_map] at few
    exact ⟨rounds, made, search, once, few⟩
  element := fun tag => by
    have made := insideAt?_eq (List.cons_ne_nil '<' tag.toList)
      (List.cons_ne_nil '<' ('/' :: tag.toList ++ ['>'])) reply.toList
    exact ⟨_, made, fun name => Option.some.inj (made.symm.trans (elementAt?_eq name reply.toList))⟩
  selected := selectedShellAt?_eq reply.toList
  shell := ⟨shellIdAt?_eq reply, shellId_isAnswer reply⟩
  command := ⟨commandIdAt?_eq reply, commandId_isAnswer reply⟩
  chunk := ⟨receiveChunkAt?_eq reply, receiveChunk_isAnswer reply⟩
  reason := faultReasonAt?_eq reply

/-- A tag that closes itself, and an element without an end, among characters of two octets each. -/
example : ((streamAt? "s" "é<rsp:Stream Name=\"s\"/><rsp:Stream Name=\"s\">é").map fun found =>
    found.1.map fun r => (r.start, r.opening, r.sequel.next?)) =
      some [(0, 2, some 24), (24, 24, some 45)] := by
  decide +kernel

end Hostlink.WinRm
