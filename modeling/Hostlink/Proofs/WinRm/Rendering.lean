import Hostlink.Proofs.Bytes.Canonical
import Hostlink.Proofs.Text.Skip
import Hostlink.Proofs.WinRm.Streams

/-!
# The written form of a reply

A reply to a poll is written as elements of either stream, in any order, and one element with the
command's state, with other texts between them. `PollReply` has all that varies in it: the octets,
the blanks around their base64 texts, the texts in between, the command's id, the state and the code.
Its parts carry what they may not hold, so a text between elements opens none of the reply's own
tags, and does not say that the command has finished.

A reply is searched for marks. `Sought` is what a mark has in common with these texts, so that none
of them hides one: it does not stand in them, and it does not begin at the end of one and go on in
the next. The octets are the reason for care. Their base64 text may spell any word, the state of a
finished command among them; but the mark of a finished command ends in a quotation mark, which is
none of the sixty-four symbols.
-/

namespace Hostlink.WinRm

open Text

/-! ## The written form of a reply -/

/-- A stream of a command's output. -/
inductive OutputStream where
  | stdout
  | stderr
  deriving DecidableEq

def OutputStream.name : OutputStream → String
  | stdout => "stdout"
  | stderr => "stderr"

/-- **A text between the elements of a reply**: it opens none of the reply's own tags, and it does
not say that the command has finished. -/
structure Gap where
  text : List Char
  untagged : ¬ literal "<rsp:" rfl <:+: text
  undone : ¬ doneMark <:+: text

/-- The end of a line. -/
def Gap.line : Gap := ⟨['\n'], by decide +kernel, by decide +kernel⟩

/-- Blank characters. -/
structure Blanks where
  text : List Char
  blank : ∀ c ∈ text, isBlank c = true

def Blanks.none : Blanks := ⟨[], List.forall_mem_nil _⟩

/-- **An element of a stream.** -/
inductive Element where
  /-- Octets in base64, with blanks around them. -/
  | octets (stream : OutputStream) (front : Blanks) (bytes : Bytes) (back : Blanks)
  /-- The end of the stream, in a tag that closes itself. -/
  | ending (stream : OutputStream)
  /-- Any other text inside the element's tags. -/
  | other (stream : OutputStream) (content : List Char) (plain : '<' ∉ content)

namespace Element

def stream : Element → OutputStream
  | octets s .. | ending s | other s .. => s

/-- What stands inside the tags of an element. -/
def content? : Element → Option (List Char)
  | octets _ front bytes back => some (front.text ++ Base64.encode bytes ++ back.text)
  | ending _ => none
  | other _ content _ => some content

/-- The octets of an element, if it is one of the stream. -/
def bytes (s : OutputStream) : Element → Bytes
  | octets s' _ bytes _ => if s' = s then bytes else []
  | ending _ | other .. => []

end Element

/-- The tag of an element up to the command's id. -/
def OutputStream.tag : OutputStream → List Char
  | stdout => literal "<rsp:Stream Name=\"stdout\" CommandId=\"" rfl
  | stderr => literal "<rsp:Stream Name=\"stderr\" CommandId=\"" rfl

/-- What follows the command's id. -/
def Element.behindId (e : Element) : List Char :=
  match e.content? with
  | some content => literal "\">" rfl ++ (content ++ literal "</rsp:Stream>" rfl)
  | none => literal "\" End=\"true\"/>" rfl

/-- The written form of an element. -/
def Element.render (id : List Char) (e : Element) : List Char :=
  e.stream.tag ++ (id ++ e.behindId)

/-- Elements, each with the text behind it. -/
def renderAll (id : List Char) (items : List (Element × Gap)) : List Char :=
  items.flatMap fun item => item.1.render id ++ item.2.text

/-- What follows the tag of the element with the command's state. -/
inductive StateBody where
  /-- Nothing; the tag closes itself. -/
  | closed
  | silent (inside : Gap)
  | code (before : Gap) (code : Int32) (behind : Gap)

def StateBody.code? : StateBody → Option Int32
  | closed | silent _ => none
  | code _ n _ => some n

def StateBody.render : StateBody → List Char
  | closed => literal "/>" rfl
  | silent inside => literal ">" rfl ++ (inside.text ++ literal "</rsp:CommandState>" rfl)
  | code before n behind =>
    literal ">" rfl ++ (before.text ++ (literal "<rsp:ExitCode>" rfl ++ ((toString n).toList ++
      (literal "</rsp:ExitCode>" rfl ++ (behind.text ++ literal "</rsp:CommandState>" rfl)))))

/-- What follows the command's id in the element with its state. -/
def stateTag (done : Bool) : List Char :=
  literal "\" State=\"http://schemas.microsoft.com/wbem/wsman/1/windows/shell/" rfl ++
    if done then literal "CommandState/Done\"" rfl else literal "CommandState/Running\"" rfl

/-- **An id that stays inside its quotation marks**, and is no path: letters, digits and hyphens make
one. -/
abbrev PlainId (id : List Char) : Prop :=
  ∀ c ∈ id, c ≠ '<' ∧ c ≠ '>' ∧ c ≠ '"' ∧ c ≠ '/'

/-- **A reply to a poll**, as it is written. -/
structure PollReply where
  /-- The id of the command. -/
  id : List Char
  plain : PlainId id
  lead : Gap
  before : List (Element × Gap)
  done : Bool
  body : StateBody
  behind : Gap
  after : List (Element × Gap)

namespace PollReply

/-- The written form of a reply. -/
def text (r : PollReply) : List Char :=
  r.lead.text ++ (renderAll r.id r.before ++ (literal "<rsp:CommandState CommandId=\"" rfl ++ (r.id ++
    (stateTag r.done ++ (r.body.render ++ (r.behind.text ++ renderAll r.id r.after))))))

/-- The elements of the streams, in order. -/
def elements (r : PollReply) : List Element := (r.before ++ r.after).map (·.1)

end PollReply

/-! ## Marks that are sought -/

/-- What comes behind a text begins a tag, or nothing comes. -/
def Opens (rest : List Char) : Prop := ∀ c ∈ rest.head?, c = '<'

theorem Opens.nil : Opens [] := fun _ first => by cases first

theorem Opens.cons (rest : List Char) : Opens ('<' :: rest) := fun _ first => (Option.some.inj first).symm

/-- The texts that are the same in all replies, apart from the tags of a stream and of a code. -/
inductive Tag where
  /-- Between the command's id and the content of an element. -/
  | content
  | ending
  | closing
  | state
  | stateClosed
  | stateOpened
  | stateClosing

namespace Tag

def text : Tag → List Char
  | content => literal "\">" rfl
  | ending => literal "\" End=\"true\"/>" rfl
  | closing => literal "</rsp:Stream>" rfl
  | state => literal "<rsp:CommandState CommandId=\"" rfl
  | stateClosed => literal "/>" rfl
  | stateOpened => literal ">" rfl
  | stateClosing => literal "</rsp:CommandState>" rfl

def all : List Tag := [content, ending, closing, state, stateClosed, stateOpened, stateClosing]

theorem mem_all (t : Tag) : t ∈ all := by
  cases t <;> simp [all]

end Tag

/-- **A mark that is sought** past the texts of a reply: it does not stand in one, and does not begin
in one either. -/
structure Sought (mark : List Char) : Prop where
  inhabited : mark ≠ []
  untagged : '<' ∉ mark.tail
  tag : ∀ t : Tag, clear mark t.text = true
  gap : ∀ g : Gap, ¬ mark <:+: g.text
  id : ∀ id : List Char, PlainId id → ∀ rest, Skips mark id ('"' :: rest)
  text : ∀ text : List Char, '<' ∉ text → '"' ∉ text → ∀ rest, Skips mark text ('<' :: rest)

theorem Sought.skips_tag {mark : List Char} (h : Sought mark) (t : Tag) (rest : List Char) :
    Skips mark t.text rest := skips_of_clear (h.tag t) rest

theorem Sought.skips_gap {mark : List Char} (h : Sought mark) (g : Gap) {rest : List Char}
    (opens : Opens rest) : Skips mark g.text rest :=
  skips_of_barrier (h.gap g) fun c first => opens c first ▸ h.untagged

theorem Sought.skips_element {mark : List Char} (h : Sought mark) {e : Element}
    (tag : clear mark e.stream.tag = true)
    (content : ∀ c ∈ e.content?, ∀ rest, Skips mark c ('<' :: rest)) {id : List Char}
    (plain : PlainId id) (rest : List Char) :
    Skips mark (e.render id) rest := by
  refine (skips_of_clear tag _).append ?_
  unfold Element.behindId
  cases inside : e.content? with
  | none => exact (h.id id plain _).append (h.skips_tag .ending rest)
  | some c =>
    refine (h.id id plain _).append ?_
    exact (h.skips_tag .content _).append ((content c inside _).append (h.skips_tag .closing rest))

/-- A mark that begins a tag of the reply's own stands in no text without tags. -/
theorem skips_untagged {mark text : List Char} (own : literal "<rsp:" rfl <+: mark) (plain : '<' ∉ text)
    (rest : List Char) : Skips mark text rest := by
  obtain ⟨tail, rfl⟩ := own
  exact skips_of_head plain _ rest

/-! The marks are told apart from the tags by looking at them, which is done here for all of them. -/

/-- The beginnings of the tags that are sought. -/
def soughtTags : List (List Char) :=
  [streamOpening "stdout", streamOpening "stderr", '<' :: "rsp:ExitCode".toList]

theorem soughtTags_spec : ∀ mark ∈ soughtTags, literal "<rsp:" rfl <+: mark ∧ mark ≠ [] ∧
    '<' ∉ mark.tail ∧ ∀ t ∈ Tag.all, clear mark t.text = true := by
  decide +kernel

/-- **The beginnings of tags are sought.** -/
theorem sought_of_mem_soughtTags {mark : List Char} (among : mark ∈ soughtTags) : Sought mark := by
  obtain ⟨own, inhabited, untagged, tags⟩ := soughtTags_spec mark among
  exact {
    inhabited
    untagged
    tag t := tags t t.mem_all
    gap g stands := g.untagged (own.isInfix.trans stands)
    id id plain rest := skips_untagged own (fun c => (plain _ c).1 rfl) _
    text text plain _ rest := skips_untagged own plain _ }

theorem streamOpening_mem_soughtTags (s : OutputStream) : streamOpening s.name ∈ soughtTags := by
  cases s with
  | stdout => exact List.mem_cons_self
  | stderr => exact List.mem_cons_of_mem _ List.mem_cons_self

theorem own_stream (s : OutputStream) : literal "<rsp:" rfl <+: streamOpening s.name :=
  (soughtTags_spec _ (streamOpening_mem_soughtTags s)).1

theorem sought_stream (s : OutputStream) : Sought (streamOpening s.name) :=
  sought_of_mem_soughtTags (streamOpening_mem_soughtTags s)

theorem exitCode_mem_soughtTags : '<' :: "rsp:ExitCode".toList ∈ soughtTags :=
  List.mem_cons_of_mem _ (List.mem_cons_of_mem _ List.mem_cons_self)

theorem doneMark_spec : doneMark ≠ [] ∧ '<' ∉ doneMark.tail ∧
    ∀ t ∈ Tag.all, clear doneMark t.text = true := by
  decide +kernel

theorem sought_done : Sought doneMark where
  inhabited := doneMark_spec.1
  untagged := doneMark_spec.2.1
  tag t := doneMark_spec.2.2 t t.mem_all
  gap g := g.undone
  id id plain rest := by
    -- an id has no slash, and the quotation mark behind it comes too early
    have split : doneMark = literal "CommandState" rfl ++ '/' :: literal "Done\"" rfl :=
      (literal_eq rfl).symm
    have early : '"' ∉ literal "CommandState" rfl ++ ['/'] := by decide
    rw [split]
    refine skips_of_stop (fun slash => (plain _ slash).2.2.2 rfl) fun c first => ?_
    exact Option.some.inj first ▸ early
  text text _ unquoted rest := by
    have split : doneMark = literal "CommandState/Done" rfl ++ '"' :: [] := (literal_eq rfl).symm
    have early : '<' ∉ literal "CommandState/Done" rfl ++ ['"'] := by decide
    rw [split]
    exact skips_of_stop unquoted fun c first => Option.some.inj first ▸ early

/-! ## Contents -/

theorem Blanks.not_mem (b : Blanks) {c : Char} (other : isBlank c = false) : c ∉ b.text := fun among =>
  by cases (b.blank c among).symm.trans other

/-- Blanks around a text without blanks are left out. -/
theorem trimChars_blanks (front back : Blanks) {cs : List Char} (solid : ∀ c ∈ cs, isBlank c = false) :
    trimChars (front.text ++ cs ++ back.text) = cs := by
  rw [trimChars_around front.blank back.blank, trimChars_of_solid solid]

/-- A character of a base64 text is no blank and none that markup is made of. -/
theorem base64_plain (bs : Bytes) :
    ∀ c ∈ Base64.encode bs, isBlank c = false ∧ c ≠ '<' ∧ c ≠ '"' :=
  Base64.forall_mem_encode (by decide) (by decide) bs

/-- **A content stands for octets** exactly if what is between its blanks is their base64 text. -/
theorem holdsOctets_iff {content : List Char} {bytes : Bytes} :
    HoldsOctets content bytes ↔ trimChars content = Base64.encode bytes :=
  Base64.decode_eq_ok_iff

namespace Element

theorem holdsOctets (front back : Blanks) (bytes : Bytes) :
    HoldsOctets (front.text ++ Base64.encode bytes ++ back.text) bytes :=
  holdsOctets_iff.mpr (trimChars_blanks front back fun c among => (base64_plain bytes c among).1)

/-- The octets of an element and the blanks around them are apart from markup. -/
theorem octets_plain {front back : Blanks} {bytes : Bytes} {c : Char} (solid : isBlank c = false)
    (other : c ∉ Base64.encode bytes) : c ∉ front.text ++ Base64.encode bytes ++ back.text := by
  rw [List.mem_append, List.mem_append]
  rintro ((among | among) | among)
  · exact front.not_mem solid among
  · exact other among
  · exact back.not_mem solid among

/-- No tag begins inside an element. -/
theorem content_plain {e : Element} {content : List Char} (inside : e.content? = some content) :
    '<' ∉ content := by
  cases e with
  | octets s front bytes back =>
    cases inside
    exact octets_plain (by decide) fun among => (base64_plain bytes _ among).2.1 rfl
  | ending s => cases inside
  | other s content plain =>
    cases inside
    exact plain

end Element

end Hostlink.WinRm
