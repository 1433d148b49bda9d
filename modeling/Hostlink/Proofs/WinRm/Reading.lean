import Hostlink.Proofs.Text.Integer
import Hostlink.Proofs.WinRm.Rendering

/-!
# A reply is read as it was written

Reading a reply takes back its writing, `PollReply.receiveChunk_text`: the octets of either stream,
the code and the state are those that were written, whatever the octets are; and a text that is no
base64 text is a fault.

The reader makes four searches, each for marks of its own, and each passes over what it does not
look for. `Searches` says so of a reading once and for all, so that the walk along the parts of a
reply is the same for all four: `Searches.lead`, `Searches.state` and `Sought.skips_body`.
-/

namespace Hostlink.WinRm

open Text

/-! ## Reading the elements of a stream -/

section Streams

variable {name : String} {text rest : List Char}

theorem nextElement?_skip (h : Skips (streamOpening name) text rest) :
    nextElement? name (text ++ rest) = nextElement? name rest := by
  simp only [nextElement?, cut?_skip h, Option.bind_eq_bind, Option.bind_map]
  rfl

theorem streamContents_skip (h : Skips (streamOpening name) text rest) :
    streamContents name (text ++ rest) = streamContents name rest := by
  have same := nextElement?_skip h
  cases element : nextElement? name rest with
  | none => rw [streamContents_of_none element, streamContents_of_none (same.trans element)]
  | some found => rw [streamContents_of_some element, streamContents_of_some (same.trans element)]

/-- A search for the end of a tag ends where the tag does. -/
theorem cut?_tagEnd {tag : List Char} (inside : '>' ∉ tag) (rest : List Char) :
    cut? ['>'] (tag ++ '>' :: rest) = some (tag, rest) :=
  cut?_skip_mark (List.cons_ne_nil _ _) (skips_of_head inside [] _)

theorem streamOpening_ne_nil (name : String) : streamOpening name ≠ [] :=
  List.append_ne_nil_of_right_ne_nil _ (List.cons_ne_nil _ _)

theorem streamClosing_eq : streamClosing = literal "</rsp:Stream>" rfl := (literal_eq rfl).symm

theorem streamClosing_ne_nil : streamClosing ≠ [] :=
  streamClosing_eq ▸ List.cons_ne_nil _ _

variable {inside content : List Char}

/-- An element whose tag closes itself has no content. -/
theorem nextElement?_closed (tag : '>' ∉ streamOpening name ++ inside)
    (slash : (streamOpening name ++ inside).getLast? = some '/') (rest : List Char) :
    nextElement? name (streamOpening name ++ (inside ++ '>' :: rest)) = some (none, rest) := by
  simp only [nextElement?, cut?_mark (streamOpening_ne_nil name), Option.bind_eq_bind,
    Option.bind_some]
  rw [← List.append_assoc, cut?_tagEnd tag]
  exact if_pos slash

/-- The content of any other element is what stands before the closing tag. -/
theorem nextElement?_content (tag : '>' ∉ streamOpening name ++ inside)
    (unclosed : (streamOpening name ++ inside).getLast? ≠ some '/') (plain : '<' ∉ content)
    (rest : List Char) :
    nextElement? name (streamOpening name ++ (inside ++ '>' :: (content ++ (streamClosing ++ rest)))) =
      some (some content, rest) := by
  have closing : cut? streamClosing (content ++ (streamClosing ++ rest)) = some (content, rest) :=
    cut?_skip_mark streamClosing_ne_nil (skips_of_head plain _ _)
  simp only [nextElement?, cut?_mark (streamOpening_ne_nil name), Option.bind_eq_bind,
    Option.bind_some]
  rw [← List.append_assoc, cut?_tagEnd tag]
  exact (if_neg unclosed).trans (by rw [closing]; rfl)

end Streams

namespace OutputStream

/-- What stands in the tag of an element behind the stream's name, as far as the command's id. -/
def commandAttribute : List Char := literal " CommandId=\"" rfl

def other : OutputStream → OutputStream
  | stdout => stderr
  | stderr => stdout

theorem other_eq {s s' : OutputStream} (ne : s' ≠ s) : s'.other = s := by
  cases s <;> cases s' <;> first | exact absurd rfl ne | rfl

/-- **The tag of a stream**: it begins with the stream's mark, ends behind the id, and has none of
the other marks in it. -/
theorem tag_spec (s : OutputStream) :
    s.tag = streamOpening s.name ++ commandAttribute ∧ '>' ∉ s.tag ∧
      clear (streamOpening s.other.name) s.tag = true ∧
      clear ('<' :: "rsp:ExitCode".toList) s.tag = true ∧ clear doneMark s.tag = true := by
  cases s with
  | stdout | stderr => decide +kernel

theorem tag_eq (s : OutputStream) : s.tag = streamOpening s.name ++ commandAttribute := s.tag_spec.1

/-- A stream's elements are not those of the other. -/
theorem clear_tag {s s' : OutputStream} (ne : s' ≠ s) :
    clear (streamOpening s.name) s'.tag = true := by
  have clears := s'.tag_spec.2.2.1
  rwa [other_eq ne] at clears

end OutputStream

/-- **An element is found by a search for its stream**, with its content and what comes behind. -/
theorem nextElement?_render {e : Element} {id : List Char}
    (plain : PlainId id) (rest : List Char) :
    nextElement? e.stream.name (e.render id ++ rest) = some (e.content?, rest) := by
  have inside {last : List Char} (h : '>' ∉ last) : '>' ∉ streamOpening e.stream.name ++
      (OutputStream.commandAttribute ++ (id ++ last)) := by
    have tag := e.stream.tag_spec.2.1
    rw [← List.append_assoc, ← OutputStream.tag_eq, List.mem_append, List.mem_append]
    rintro (among | among | among)
    · exact tag among
    · exact (plain _ among).2.1 rfl
    · exact h among
  unfold Element.render Element.behindId
  -- the last character before the end of the tag tells whether it closes itself
  cases content : e.content? with
  | none =>
    have split : literal "\" End=\"true\"/>" rfl = literal "\" End=\"true\"/" rfl ++ ['>'] := rfl
    have slash : (literal "\" End=\"true\"/" rfl).getLast? = some '/' := rfl
    have found := nextElement?_closed
      (inside (by decide : '>' ∉ literal "\" End=\"true\"/" rfl)) (by simp [slash]) rest
    simpa only [OutputStream.tag_eq, split, List.append_assoc, List.singleton_append] using found
  | some c =>
    have split : literal "\">" rfl = ['"', '>'] := rfl
    have found := nextElement?_content (inside (by decide : '>' ∉ ['"'])) (by simp)
      (Element.content_plain content) rest
    simpa only [OutputStream.tag_eq, split, streamClosing_eq, List.append_assoc, List.cons_append,
      List.nil_append] using found

/-! ## The whole of a reply -/

theorem opens_render (id : List Char) (e : Element) (rest : List Char) : Opens (e.render id ++ rest) := by
  intro c first
  unfold Element.render at first
  cases stream : e.stream with
  | stdout | stderr =>
    rw [stream] at first
    exact (Option.some.inj first).symm

theorem opens_renderAll (id : List Char) (items : List (Element × Gap)) {rest : List Char}
    (opens : Opens rest) : Opens (renderAll id items ++ rest) := by
  cases items with
  | nil => exact opens
  | cons item items =>
    rw [renderAll, List.flatMap_cons, List.append_assoc, List.append_assoc]
    exact opens_render id item.1 _

/-- A mark that is sought stands in no elements with the texts between them, if it stands in none of
them. By induction on the elements. -/
theorem Sought.skips_renderAll {mark : List Char} (h : Sought mark) {id : List Char}
    {items : List (Element × Gap)}
    (elements : ∀ item ∈ items, ∀ rest, Skips mark (item.1.render id) rest) {rest : List Char}
    (opens : Opens rest) : Skips mark (renderAll id items) rest := by
  induction items with
  | nil => exact skips_of_clear rfl rest
  | cons item items ih =>
    rw [List.forall_mem_cons] at elements
    rw [renderAll, List.flatMap_cons]
    refine Skips.append ?_ (ih elements.2)
    exact (elements.1 _).append (h.skips_gap item.2 (opens_renderAll id items opens))

/-- The contents of an element, if it is one of the stream. -/
def Element.contents (s : OutputStream) (e : Element) : List (List Char) :=
  if e.stream = s then e.content?.toList else []

theorem streamContents_render (s : OutputStream) (e : Element) {id : List Char}
    (plain : PlainId id) (rest : List Char) :
    streamContents s.name (e.render id ++ rest) = e.contents s ++ streamContents s.name rest := by
  unfold Element.contents
  by_cases own : e.stream = s
  · subst own
    rw [if_pos rfl, streamContents_of_some (nextElement?_render plain rest)]
  · rw [if_neg own, List.nil_append]
    refine streamContents_skip ((sought_stream s).skips_element (OutputStream.clear_tag own) ?_ plain rest)
    exact fun c inside rest => skips_untagged (own_stream s) (Element.content_plain inside) _

/-- **A search for a stream finds its elements**, in order. By induction on the elements. -/
theorem streamContents_renderAll (s : OutputStream) {id : List Char}
    (plain : PlainId id) (items : List (Element × Gap))
    {rest : List Char} (opens : Opens rest) :
    streamContents s.name (renderAll id items ++ rest) =
      items.flatMap (·.1.contents s) ++ streamContents s.name rest := by
  induction items with
  | nil => rfl
  | cons item items ih =>
    have gap := (sought_stream s).skips_gap item.2 (opens_renderAll id items opens)
    rw [renderAll, List.flatMap_cons, List.append_assoc, List.append_assoc,
      streamContents_render s item.1 plain]
    unfold renderAll at gap ih
    rw [streamContents_skip gap, ih, List.flatMap_cons, List.append_assoc]

/-- **A reading that searches for a mark**: it is the same behind a text in which the mark does not
begin. -/
def Searches {α : Type} (mark : List Char) (read : List Char → α) : Prop :=
  ∀ text rest, Skips mark text rest → read (text ++ rest) = read rest

theorem searches_streamContents (s : OutputStream) :
    Searches (streamOpening s.name) (streamContents s.name) := fun _ _ => streamContents_skip

theorem searches_elementText? (tag : String) : Searches ('<' :: tag.toList) (elementText? tag) := by
  intro text rest h
  simp only [elementText?, cut?_skip h, Option.bind_eq_bind, Option.bind_map]
  rfl

theorem searches_occurs (mark : List Char) : Searches mark (occurs mark) := fun _ _ => occurs_skip

/-- An element at the start of a text is found with its content, whatever attributes it has. -/
theorem elementText?_element (tag : String) {attributes content : List Char}
    (inside : '>' ∉ attributes) (plain : '<' ∉ content) (rest : List Char) :
    elementText? tag (('<' :: tag.toList) ++ (attributes ++
      '>' :: (content ++ ((['<', '/'] ++ tag.toList ++ ['>']) ++ rest)))) = some content := by
  have closing : cut? (['<', '/'] ++ tag.toList ++ ['>'])
      (content ++ ((['<', '/'] ++ tag.toList ++ ['>']) ++ rest)) = some (content, rest) :=
    cut?_skip_mark (List.cons_ne_nil _ _) (skips_of_head plain _ _)
  simp only [elementText?, cut?_mark (List.cons_ne_nil '<' tag.toList), Option.bind_eq_bind,
    Option.bind_some, cut?_tagEnd inside, closing]
  rfl

/-- The tags of a code. -/
def codeTags : List (List Char) := [literal "<rsp:ExitCode>" rfl, literal "</rsp:ExitCode>" rfl]

theorem not_mem_toString {c : Char} (digit : c.isDigit = false) (minus : c ≠ '-') (code : Int32) :
    c ∉ (toString code).toList := fun among => by
  rcases Integer.digit_or_minus_of_mem_toString among with isDigit | isMinus
  · cases digit.symm.trans isDigit
  · exact minus isMinus

theorem toString_untagged (code : Int32) : '<' ∉ (toString code).toList :=
  not_mem_toString (by decide) (by decide) code

theorem toString_unquoted (code : Int32) : '"' ∉ (toString code).toList :=
  not_mem_toString (by decide) (by decide) code

/-- A code is written without blanks. -/
theorem trimChars_toString (code : Int32) :
    trimChars (toString code).toList = (toString code).toList := by
  refine trimChars_of_solid fun c among => ?_
  rcases Integer.digit_or_minus_of_mem_toString among with digit | rfl
  · simp only [Char.isDigit, Bool.and_eq_true, decide_eq_true_eq] at digit
    have low : 48 ≤ c.toNat := digit.1
    have high : c.toNat ≤ 57 := digit.2
    simp only [isBlank, Bool.or_eq_false_iff, Bool.and_eq_false_iff, decide_eq_false_iff_not,
      beq_eq_false_iff_ne]
    omega
  · decide

section Whole

variable {α : Type} {mark : List Char} {read : List Char → α}

/-- The element with the state is passed over behind its tag, if a code that it has does not stop the
search. -/
theorem Sought.skips_body (h : Sought mark) {body : StateBody}
    (code : body.code?.isSome = true → ∀ tag ∈ codeTags, clear mark tag = true) (rest : List Char) :
    Skips mark body.render rest := by
  cases body with
  | closed => exact h.skips_tag .stateClosed rest
  | silent inside =>
    refine (h.skips_tag .stateOpened _).append ?_
    exact (h.skips_gap inside (Opens.cons _)).append (h.skips_tag .stateClosing rest)
  | code before n behind =>
    have tags := code rfl
    refine (h.skips_tag .stateOpened _).append ?_
    refine (h.skips_gap before (Opens.cons _)).append ?_
    refine (skips_of_clear (tags _ List.mem_cons_self) _).append ?_
    refine (h.text _ (toString_untagged n) (toString_unquoted n) _).append ?_
    refine (skips_of_clear (tags _ (List.mem_cons_of_mem _ List.mem_cons_self)) _).append ?_
    exact (h.skips_gap behind (Opens.cons _)).append (h.skips_tag .stateClosing rest)

/-- What a search finds behind the first texts of a reply. -/
theorem Searches.lead (search : Searches mark read) (h : Sought mark) {id : List Char} (g : Gap)
    {items : List (Element × Gap)}
    (elements : ∀ item ∈ items, ∀ rest, Skips mark (item.1.render id) rest) {rest : List Char}
    (opens : Opens rest) : read (g.text ++ (renderAll id items ++ rest)) = read rest := by
  rw [search _ _ (h.skips_gap g (opens_renderAll id items opens)),
    search _ _ (h.skips_renderAll elements opens)]

/-- What a search finds behind the command's id in the element with its state. -/
theorem Searches.state (search : Searches mark read) (h : Sought mark) {id : List Char}
    (plain : PlainId id) (done : Bool) (rest : List Char) :
    read (literal "<rsp:CommandState CommandId=\"" rfl ++ (id ++ (stateTag done ++ rest))) =
      read (stateTag done ++ rest) := by
  refine (search _ _ (h.skips_tag .state _)).trans ?_
  cases done with
  | true | false => exact search _ _ (h.id id plain _)

end Whole

namespace PollReply

variable (r : PollReply)

theorem mem_elements_of_before {r : PollReply} {item : Element × Gap} (among : item ∈ r.before) :
    item.1 ∈ r.elements :=
  List.mem_map.mpr ⟨item, List.mem_append_left _ among, rfl⟩

theorem mem_elements_of_after {r : PollReply} {item : Element × Gap} (among : item ∈ r.after) :
    item.1 ∈ r.elements :=
  List.mem_map.mpr ⟨item, List.mem_append_right _ among, rfl⟩

/-- The reply from the element with the state on. -/
theorem opens_state (rest : List Char) : Opens (literal "<rsp:CommandState CommandId=\"" rfl ++ rest) :=
  fun _ first => (Option.some.inj first).symm

/-- What stands between the command's id and the state. -/
def stateAttribute : List Char :=
  literal "\" State=\"http://schemas.microsoft.com/wbem/wsman/1/windows/shell/" rfl

theorem stateTag_true : stateTag true = stateAttribute ++ doneMark := by
  have done : literal "CommandState/Done\"" rfl = doneMark := literal_eq rfl
  rw [← done]
  rfl

theorem stateTag_false : stateTag false = stateAttribute ++ literal "CommandState/Running\"" rfl :=
  rfl

/-- **What comes between a command's id and its state** has no tag in it, and the mark of a finished
command stands in it only if the command has finished. -/
theorem stateAttribute_spec : '<' ∉ stateAttribute ++ doneMark ∧
    '<' ∉ stateAttribute ++ literal "CommandState/Running\"" rfl ∧
    clear doneMark stateAttribute = true ∧
    clear doneMark (stateAttribute ++ literal "CommandState/Running\"" rfl) = true := by
  decide +kernel

theorem stateTag_untagged (done : Bool) : '<' ∉ stateTag done := by
  cases done with
  | true => exact stateTag_true ▸ stateAttribute_spec.1
  | false => exact stateTag_false ▸ stateAttribute_spec.2.1

/-- No stream begins in the tags of a code. -/
theorem clear_codeTags : ∀ mark ∈ [streamOpening "stdout", streamOpening "stderr", doneMark],
    ∀ tag ∈ codeTags, clear mark tag = true := by
  decide +kernel

/-- **The contents of a stream's elements are found**, in order, and nothing else is. -/
theorem streamContents_text (s : OutputStream) :
    streamContents s.name r.text = r.elements.flatMap (·.contents s) := by
  have search := searches_streamContents s
  have sought := sought_stream s
  have code : ∀ tag ∈ codeTags, clear (streamOpening s.name) tag = true := by
    cases s with
    | stdout => exact clear_codeTags _ List.mem_cons_self
    | stderr => exact clear_codeTags _ (List.mem_cons_of_mem _ List.mem_cons_self)
  have body (rest : List Char) : Skips (streamOpening s.name) r.body.render rest :=
    sought.skips_body (fun _ => code) rest
  have tag (rest : List Char) : Skips (streamOpening s.name) (stateTag r.done) rest :=
    skips_untagged (own_stream s) (stateTag_untagged r.done) rest
  have last := streamContents_renderAll s r.plain r.after Opens.nil
  have nothing : streamContents s.name [] = [] := streamContents_of_none rfl
  rw [List.append_nil, nothing, List.append_nil] at last
  have gap := sought.skips_gap r.behind (opens_renderAll r.id r.after Opens.nil)
  rw [List.append_nil] at gap
  -- along the parts of the reply, of which only the two lists of elements have contents
  rw [text, search _ _ (sought.skips_gap r.lead (opens_renderAll _ _ (opens_state _))),
    streamContents_renderAll s r.plain r.before (opens_state _),
    search.state sought r.plain, search _ _ (tag _), search _ _ (body _),
    search _ _ gap, last, elements, List.map_append, List.flatMap_append, List.flatMap_map,
    List.flatMap_map]

/-- **The code is found**, if there is one. -/
theorem elementText?_text :
    elementText? "rsp:ExitCode" r.text = r.body.code?.map fun n => (toString n).toList := by
  have search := searches_elementText? "rsp:ExitCode"
  have sought := sought_of_mem_soughtTags exitCode_mem_soughtTags
  have own := (soughtTags_spec _ exitCode_mem_soughtTags).1
  have elements (items : List (Element × Gap)) (item) (_ : item ∈ items) (rest : List Char) :
      Skips ('<' :: "rsp:ExitCode".toList) (item.1.render r.id) rest := by
    refine sought.skips_element item.1.stream.tag_spec.2.2.2.1 (fun c inside rest => ?_) r.plain rest
    exact skips_untagged own (Element.content_plain inside) _
  have tag (rest : List Char) : Skips ('<' :: "rsp:ExitCode".toList) (stateTag r.done) rest :=
    skips_untagged own (stateTag_untagged r.done) rest
  -- behind the element with the state there is no code
  have nothing : elementText? "rsp:ExitCode"
      (r.behind.text ++ (renderAll r.id r.after ++ [])) = none :=
    search.lead sought r.behind (elements r.after) Opens.nil
  rw [List.append_nil] at nothing
  rw [text, search.lead sought r.lead (elements r.before) (opens_state _),
    search.state sought r.plain, search _ _ (tag _)]
  cases body : r.body with
  | closed =>
    rw [search _ _ (sought.skips_body (fun code => by cases code) _), nothing]
    rfl
  | silent inside =>
    rw [search _ _ (sought.skips_body (fun code => by cases code) _), nothing]
    rfl
  | code before n behind =>
    have tag : "rsp:ExitCode".toList = literal "rsp:ExitCode" rfl := (literal_eq rfl).symm
    have opened : literal "<rsp:ExitCode>" rfl = ('<' :: "rsp:ExitCode".toList) ++ ['>'] := by
      rw [tag]
      rfl
    have closing : literal "</rsp:ExitCode>" rfl =
        ['<', '/'] ++ "rsp:ExitCode".toList ++ ['>'] := by
      rw [tag]
      rfl
    have opens (rest : List Char) : Opens (literal "<rsp:ExitCode>" rfl ++ rest) :=
      fun _ first => (Option.some.inj first).symm
    simp only [StateBody.render, List.append_assoc]
    have begins (rest : List Char) : Skips ('<' :: "rsp:ExitCode".toList) (literal ">" rfl) rest :=
      sought.skips_tag .stateOpened rest
    rw [search _ _ (begins _),
      search _ _ (sought.skips_gap before (opens _)), opened, closing, List.append_assoc]
    exact elementText?_element "rsp:ExitCode" List.not_mem_nil (toString_untagged n) _

/-- **The state is found**, whatever the octets are. -/
theorem occurs_text (unquoted : ∀ e ∈ r.elements, ∀ c ∈ e.content?, '"' ∉ c) :
    occurs doneMark r.text = r.done := by
  have code : ∀ tag ∈ codeTags, clear doneMark tag = true :=
    clear_codeTags _ (List.mem_cons_of_mem _ (List.mem_cons_of_mem _ List.mem_cons_self))
  have search := searches_occurs doneMark
  have sought := sought_done
  have element (e : Element) (among : e ∈ r.elements) (rest : List Char) :
      Skips doneMark (e.render r.id) rest := by
    refine sought.skips_element e.stream.tag_spec.2.2.2.2 (fun c inside => ?_) r.plain rest
    exact sought.text c (Element.content_plain inside) (unquoted e among c inside)
  have nothing : occurs doneMark (r.behind.text ++ (renderAll r.id r.after ++ [])) = false :=
    search.lead sought r.behind (fun item among => element _ (mem_elements_of_after among)) Opens.nil
  rw [List.append_nil] at nothing
  rw [text, search.lead sought r.lead (fun item among => element _ (mem_elements_of_before among))
    (opens_state _), search.state sought r.plain]
  cases done : r.done with
  | true =>
    rw [stateTag_true, List.append_assoc,
      search _ _ (skips_of_clear stateAttribute_spec.2.2.1 _)]
    exact occurs_mark sought.inhabited _
  | false =>
    rw [stateTag_false, search _ _ (skips_of_clear stateAttribute_spec.2.2.2 _),
      search _ _ (sought.skips_body (fun _ => code) _), nothing]

/-- The contents of a stream's elements are those of its octets, put together in order. -/
theorem carries_text {r : PollReply} (s : OutputStream)
    (octets : ∀ e ∈ r.elements, ∀ s content plain, e ≠ .other s content plain) :
    ∃ parts, Carries s.name r.text parts ∧ parts.flatten = r.elements.flatMap (·.bytes s) := by
  unfold Carries
  rw [streamContents_text]
  generalize r.elements = elements at octets
  induction elements with
  | nil => exact ⟨[], .nil, rfl⟩
  | cons e elements ih =>
    rw [List.forall_mem_cons] at octets
    obtain ⟨parts, carries, same⟩ := ih octets.2
    rw [List.flatMap_cons, List.flatMap_cons, ← same]
    by_cases own : e.stream = s
    · cases e with
      | octets s' front bytes back =>
        refine ⟨bytes :: parts, ?_, ?_⟩
        · rw [Element.contents, if_pos own]
          exact .cons (Element.holdsOctets front back bytes) carries
        · rw [Element.bytes, if_pos (show s' = s from own), List.flatten_cons]
      | ending s' =>
        refine ⟨parts, ?_, rfl⟩
        rw [Element.contents, if_pos own]
        exact carries
      | other s' content plain => exact absurd rfl (octets.1 s' content plain)
    · refine ⟨parts, ?_, ?_⟩
      · rw [Element.contents, if_neg own]
        exact carries
      · cases e with
        | octets s' front bytes back => rw [Element.bytes, if_neg (show ¬ s' = s from own), List.nil_append]
        | ending | other => rfl

end PollReply

/-! ## Faults -/

/-- **A fault of a stream is that of one of its contents.** The cases are those of the reader. -/
theorem content_of_streamParts {name : String} {acc : List Bytes} {text : List Char}
    {fault : Base64.Fault} (h : streamParts name acc text = .error fault) :
    ∃ content ∈ streamContents name text,
      Base64.decode (Utf8.encode (String.ofList (trimChars content))) = .error fault := by
  fun_induction streamParts name acc text with
  | case1 | case2 | case4 => cases h
  | case3 acc text _ after hOpen tag rest hTag closed ih =>
    have element : nextElement? name text = some (none, rest) := by
      simp [nextElement?, hOpen, hTag, closed]
    rw [streamContents_of_some element]
    exact ih h
  | case5 acc text _ after hOpen tag rest hTag closed content more hClose _ empty ih =>
    have element : nextElement? name text = some (some content, more) := by
      simp [nextElement?, hOpen, hTag, closed, hClose]
    obtain ⟨content', among, broken⟩ := ih h
    rw [streamContents_of_some element]
    exact ⟨content', List.mem_append_right _ among, broken⟩
  | case6 acc text _ after hOpen tag rest hTag closed content more hClose _ _ part held ih =>
    have element : nextElement? name text = some (some content, more) := by
      simp [nextElement?, hOpen, hTag, closed, hClose]
    obtain ⟨content', among, broken⟩ := ih h
    rw [streamContents_of_some element]
    exact ⟨content', List.mem_append_right _ among, broken⟩
  | case7 acc text _ after hOpen tag rest hTag closed content more hClose _ _ fault broken =>
    have element : nextElement? name text = some (some content, more) := by
      simp [nextElement?, hOpen, hTag, closed, hClose]
    cases h
    rw [streamContents_of_some element]
    exact ⟨content, List.mem_append_left _ (List.mem_singleton_self content), broken⟩

theorem content_of_decodeStream {name reply : String} {fault : LinkFault}
    (h : decodeStream name reply = .error fault) :
    ∃ content ∈ streamContents name reply.toList, ∃ cause,
      Base64.decode (Utf8.encode (String.ofList (trimChars content))) = .error cause ∧
        fault = .encoding s!"Invalid {name} stream: {cause.message}" := by
  unfold decodeStream at h
  cases parts : streamParts name [] reply.toList with
  | ok parts' =>
    rw [parts] at h
    cases h
  | error cause =>
    rw [parts] at h
    obtain ⟨content, among, broken⟩ := content_of_streamParts parts
    exact ⟨content, among, cause, broken, (Except.error.inj h).symm⟩

/-- A stream whose octets were read has no content that stands for none. -/
theorem holdsOctets_of_decodeStream {name reply : String} {bytes : Bytes}
    (h : decodeStream name reply = .ok bytes) {content : List Char}
    (among : content ∈ streamContents name reply.toList) : ∃ part, HoldsOctets content part := by
  obtain ⟨parts, carries, -⟩ := decodeStream_eq_ok_iff.mp h
  unfold Carries at carries
  generalize streamContents name reply.toList = contents at carries among
  induction carries with
  | nil => cases among
  | cons holds _ ih =>
    rcases List.mem_cons.mp among with rfl | among
    · exact ⟨_, holds⟩
    · exact ih among

/-- A reply with a fault in one of its streams is a fault of a stream: of the first, or else of the
second. -/
theorem receiveChunk_of_fault {reply : String} {s : OutputStream} {fault : LinkFault}
    (failed : decodeStream s.name reply = .error fault) :
    ∃ (s' : OutputStream) (fault' : LinkFault), decodeStream s'.name reply = .error fault' ∧
      receiveChunk reply = .error fault' := by
  cases out : decodeStream "stdout" reply with
  | error fault' =>
    refine ⟨.stdout, fault', out, ?_⟩
    simp only [receiveChunk, out]
    rfl
  | ok stdout =>
    cases s with
    | stdout => cases out.symm.trans failed
    | stderr =>
      refine ⟨.stderr, fault, failed, ?_⟩
      rw [OutputStream.name] at failed
      simp only [receiveChunk, out, failed]
      rfl

/-! ## Reading a reply -/

namespace PollReply

/-- An octet string's text has no quotation mark in it. -/
theorem unquoted {r : PollReply} (octets : ∀ e ∈ r.elements, ∀ s content plain, e ≠ .other s content plain) :
    ∀ e ∈ r.elements, ∀ c ∈ e.content?, '"' ∉ c := by
  intro e among c inside
  cases e with
  | octets s front bytes back =>
    cases inside
    exact Element.octets_plain (by decide) fun among => (base64_plain bytes _ among).2.2 rfl
  | ending s => cases inside
  | other s content plain => exact absurd rfl (octets _ among s content plain)

/-- A content that is found is that of an element. -/
theorem element_of_content {r : PollReply} {s : OutputStream} {content : List Char}
    (found : content ∈ streamContents s.name r.text) :
    ∃ e ∈ r.elements, e.stream = s ∧ e.content? = some content := by
  rw [streamContents_text] at found
  obtain ⟨e, among, inside⟩ := List.mem_flatMap.mp found
  unfold Element.contents at inside
  split at inside
  next own => exact ⟨e, among, own, Option.mem_toList.mp inside⟩
  next => cases inside

/-- A content that holds no base64 text is a fault of its stream. -/
theorem decodeStream_of_malformed {r : PollReply} {e : Element} (among : e ∈ r.elements)
    {content : List Char} (inside : content ∈ e.content?)
    (malformed : ∀ bytes, trimChars content ≠ Base64.encode bytes) :
    ∃ fault, decodeStream e.stream.name (String.ofList r.text) = .error fault := by
  cases decoded : decodeStream e.stream.name (String.ofList r.text) with
  | error fault => exact ⟨fault, rfl⟩
  | ok bytes =>
    have found : content ∈ streamContents e.stream.name (String.ofList r.text).toList := by
      rw [String.toList_ofList, streamContents_text]
      refine List.mem_flatMap.mpr ⟨e, among, ?_⟩
      rw [Element.contents, if_pos rfl]
      exact Option.mem_toList.mpr inside
    obtain ⟨part, holds⟩ := holdsOctets_of_decodeStream decoded found
    exact absurd (holdsOctets_iff.mp holds) (malformed part)

/-- **A fault of a stream is told in its name**, and is that of the base64 text of an element. -/
theorem element_of_fault {r : PollReply} {s : OutputStream} {fault : LinkFault}
    (failed : decodeStream s.name (String.ofList r.text) = .error fault) :
    ∃ bad ∈ r.elements, ∃ content ∈ bad.content?, ∃ cause : Base64.Fault,
      Base64.decode (Utf8.encode (String.ofList (trimChars content))) = .error cause ∧
      fault = .encoding s!"Invalid {bad.stream.name} stream: {cause.message}" := by
  obtain ⟨content, found, cause, broken, same⟩ := content_of_decodeStream failed
  rw [String.toList_ofList] at found
  obtain ⟨bad, among, rfl, inside⟩ := element_of_content found
  exact ⟨bad, among, content, inside, cause, broken, same⟩

/-- **A reply whose elements hold octets** or end a stream is read as it was written. -/
theorem receiveChunk_of_octets {r : PollReply}
    (octets : ∀ e ∈ r.elements, ∀ s content plain, e ≠ .other s content plain) :
    receiveChunk (String.ofList r.text) =
      .ok ⟨r.elements.flatMap (·.bytes .stdout), r.elements.flatMap (·.bytes .stderr), r.body.code?,
        r.done⟩ := by
  obtain ⟨stdout, out, sameOut⟩ := carries_text .stdout octets
  obtain ⟨stderr, err, sameErr⟩ := carries_text .stderr octets
  refine receiveChunk_eq_ok_iff.mpr ⟨stdout, stderr, ⟨?_, ?_, ?_, ?_⟩, sameOut, sameErr⟩
  · rwa [String.toList_ofList]
  · rwa [String.toList_ofList]
  · rw [String.toList_ofList]
    have stated := elementText?_text r
    cases code : r.body.code? with
    | none => exact .absent (by rw [stated, code]; rfl)
    | some n =>
      refine .stated (by rw [stated, code]; rfl) ?_
      rw [trimChars_toString]
      exact Integer.readInt32_toString n
  · rw [String.toList_ofList]
    exact occurs_text r (unquoted octets)

/-- **Reading a reply takes back its writing.** A reply is read that was written from elements of
either stream in any order, the id of a command, a state and perhaps a code, with texts between
them. If the elements hold octets or end a stream, then the octets of each stream are read in the
order of the elements, and the state and the code are those that were written, whatever the octets
are. If an element holds a text that is no base64 text, then the reading fails with the fault of the
base64 text of some element, in the name of its stream. -/
theorem receiveChunk_text (r : PollReply) :
    ((∀ e ∈ r.elements, ∀ s content plain, e ≠ .other s content plain) →
      receiveChunk (String.ofList r.text) =
        .ok ⟨r.elements.flatMap (·.bytes .stdout), r.elements.flatMap (·.bytes .stderr), r.body.code?,
          r.done⟩) ∧
    ∀ e ∈ r.elements, ∀ content ∈ e.content?,
      (∀ bytes, trimChars content ≠ Base64.encode bytes) →
        ∃ bad ∈ r.elements, ∃ content' ∈ bad.content?, ∃ fault : Base64.Fault,
          Base64.decode (Utf8.encode (String.ofList (trimChars content'))) = .error fault ∧
          receiveChunk (String.ofList r.text) =
            .error (.encoding s!"Invalid {bad.stream.name} stream: {fault.message}") := by
  refine ⟨receiveChunk_of_octets, fun e among content inside malformed => ?_⟩
  obtain ⟨fault, failed⟩ := decodeStream_of_malformed among inside malformed
  obtain ⟨s, fault', failed', same⟩ := receiveChunk_of_fault failed
  obtain ⟨bad, among', content', inside', cause, broken, told⟩ := element_of_fault failed'
  exact ⟨bad, among', content', inside', cause, broken, told ▸ same⟩

/-- Octets whose base64 text spells the state of a finished command. -/
def forged : Bytes := [10, 137, 166, 106, 119, 82, 181, 171, 94, 252, 58, 39, 120, 0, 0]

/-- A reply of a command that goes on, with such octets in it. -/
def forging : PollReply where
  id := ['C', '1']
  plain := List.forall_mem_cons.mpr ⟨by decide, List.forall_mem_singleton.mpr (by decide)⟩
  lead := .line
  before := [(.octets .stdout .none forged .none, .line), (.ending .stderr, .line)]
  done := false
  body := .closed
  behind := .line
  after := []

/-- The same with an element that holds no base64 text. -/
def malformed : PollReply :=
  { forging with after := [(.other .stderr ['*', '*', '*'] (by decide), .line)] }

/-- The octets spell the state, and change nothing; a text that is no base64 text is a fault. -/
theorem forging_read :
    Base64.encode forged = "CommandState/DoneAAA".toList ∧
      receiveChunk (String.ofList forging.text) = .ok ⟨forged, [], none, false⟩ ∧
      ∃ text, receiveChunk (String.ofList malformed.text) = .error (.encoding text) := by
  refine ⟨by decide +kernel, ?_, ?_⟩
  · refine (receiveChunk_text forging).1 ?_
    refine List.forall_mem_cons.mpr ⟨?_, List.forall_mem_singleton.mpr ?_⟩
    · rintro s content plain ⟨⟩
    · rintro s content plain ⟨⟩
  · have among : Element.other .stderr ['*', '*', '*'] (by decide) ∈ malformed.elements :=
      List.mem_append_right [_, _] List.mem_cons_self
    have other (bytes : Bytes) : trimChars ['*', '*', '*'] ≠ Base64.encode bytes := fun same => by
      have solid : ∀ c ∈ Base64.encode bytes, c ≠ '*' :=
        Base64.forall_mem_encode (by decide) (by decide) bytes
      rw [← same] at solid
      exact solid '*' (by decide) rfl
    obtain ⟨_, _, _, _, _, _, failed⟩ :=
      (receiveChunk_text malformed).2 _ among ['*', '*', '*'] rfl other
    exact ⟨_, failed⟩

end PollReply

end Hostlink.WinRm
