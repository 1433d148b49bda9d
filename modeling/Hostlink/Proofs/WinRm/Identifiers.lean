import Hostlink.Proofs.WinRm.Envelope
import Hostlink.Proofs.WinRm.Reading

/-!
# Identifiers on their way back

The endpoint gives an identifier to a shell and to each command, and every later request repeats it.
In a reply an identifier is written as markup wants it, and what is read from there goes into the
requests as it stands, where it is written once more. So what a request repeats is not the identifier
but its written form, `identifiers_repeated`: the two are the same exactly if none of the five special
characters is in it. An identifier with an ampersand comes back as another one,
`ampersand_repeated_escaped`.
-/

namespace Hostlink.WinRm

open Text

/-! ## Replies that give an identifier -/

/-- **An element of a reply**: the first one whose tag starts with this name, with any attributes, and
with this content. -/
inductive HoldsElement (tag : String) (content : List Char) : List Char → Prop
  | intro (front attributes rest : List Char) (first : ¬ '<' :: tag.toList <:+: front)
      (inside : '>' ∉ attributes) :
    HoldsElement tag content (front ++ (('<' :: tag.toList) ++ (attributes ++
      '>' :: (content ++ ((['<', '/'] ++ tag.toList ++ ['>']) ++ rest)))))

/-- **A selector of a shell**: the first one of a reply, with this content. -/
inductive HoldsSelector (content : List Char) : List Char → Prop
  | intro (front rest : List Char) (first : ¬ shellMark <:+: front) :
    HoldsSelector content (front ++ (shellMark ++ (content ++ (['<', '/'] ++ rest))))

/-- What a text is written as, with blanks around it. -/
def written (id : String) (front back : Blanks) : List Char :=
  front.text ++ (Markup.escape id).toList ++ back.text

/-- **A reply that gives a shell its identifier**, in an element of its own or, if it has none, in the
selector. -/
inductive GivesShell (id : String) (reply : String) : Prop
  | element (front back : Blanks)
      (holds : HoldsElement "rsp:ShellId" (written id front back) reply.toList)
  | selector (front back : Blanks) (none : ¬ '<' :: "rsp:ShellId".toList <:+: reply.toList)
      (holds : HoldsSelector (written id front back) reply.toList)

/-- **A reply that gives a command its identifier.** -/
inductive GivesCommand (id : String) (reply : String) : Prop
  | element (front back : Blanks)
      (holds : HoldsElement "rsp:CommandId" (written id front back) reply.toList)

/-- A reply to the request for a shell, with nothing but its identifier. -/
def createResponse (id : String) : String :=
  "<rsp:Shell><rsp:ShellId>" ++ Markup.escape id ++ "</rsp:ShellId></rsp:Shell>"

/-- A reply to a command line, with nothing but the command's identifier. -/
def commandResponse (id : String) : String :=
  "<rsp:CommandResponse><rsp:CommandId>" ++ Markup.escape id ++
    "</rsp:CommandId></rsp:CommandResponse>"

theorem HoldsElement.of_around {tag id before behind : String} {front rest : List Char}
    (opening : before.toList = front ++ (('<' :: tag.toList) ++ ['>']))
    (closing : behind.toList = (['<', '/'] ++ tag.toList ++ ['>']) ++ rest)
    (first : ¬ '<' :: tag.toList <:+: front) :
    HoldsElement tag (written id .none .none) (before ++ Markup.escape id ++ behind).toList := by
  have whole : (before ++ Markup.escape id ++ behind).toList =
      front ++ (('<' :: tag.toList) ++ ([] ++ '>' :: (written id .none .none ++
        ((['<', '/'] ++ tag.toList ++ ['>']) ++ rest)))) := by
    rw [String.toList_append, String.toList_append, opening, closing]
    simp only [written, Blanks.none, List.nil_append, List.append_nil, List.append_assoc,
      List.cons_append]
  rw [whole]
  exact .intro front [] rest first List.not_mem_nil

/-- Any identifier can be given to a shell. -/
theorem createResponse_gives (id : String) : GivesShell id (createResponse id) := by
  have opening : "<rsp:Shell><rsp:ShellId>".toList =
      literal "<rsp:Shell>" rfl ++ (('<' :: "rsp:ShellId".toList) ++ ['>']) := by decide
  have closing : "</rsp:ShellId></rsp:Shell>".toList =
      (['<', '/'] ++ "rsp:ShellId".toList ++ ['>']) ++ literal "</rsp:Shell>" rfl := by decide
  exact .element .none .none (.of_around opening closing (by decide))

/-- Any identifier can be given to a command. -/
theorem commandResponse_gives (id : String) : GivesCommand id (commandResponse id) := by
  have opening : "<rsp:CommandResponse><rsp:CommandId>".toList =
      literal "<rsp:CommandResponse>" rfl ++ (('<' :: "rsp:CommandId".toList) ++ ['>']) := by decide
  have closing : "</rsp:CommandId></rsp:CommandResponse>".toList =
      (['<', '/'] ++ "rsp:CommandId".toList ++ ['>']) ++ literal "</rsp:CommandResponse>" rfl := by
    decide
  exact .element .none .none (.of_around opening closing (by decide))

/-! ## Reading them -/

theorem elementText?_of_holds {tag : String} (name : '<' ∉ tag.toList) {content text : List Char}
    (plain : '<' ∉ content) (holds : HoldsElement tag content text) :
    elementText? tag text = some content := by
  obtain ⟨front, attributes, rest, first, inside⟩ := holds
  have before := skips_of_barrier first fun c next => Opens.cons (tag.toList ++ (attributes ++
    '>' :: (content ++ ((['<', '/'] ++ tag.toList ++ ['>']) ++ rest)))) c next ▸ name
  exact (searches_elementText? tag front _ before).trans (elementText?_element tag inside plain rest)

theorem elementText?_of_absent {tag : String} {text : List Char}
    (absent : ¬ '<' :: tag.toList <:+: text) : elementText? tag text = none := by
  have nowhere : Skips ('<' :: tag.toList) text [] :=
    skips_of_barrier absent fun c next => by cases next
  rw [elementText?, cut?_none (List.cons_ne_nil _ _) nowhere]
  rfl

/-- The first letter of the mark before an identifier does not come again in it. -/
theorem not_mem_tail_shellMark : 'N' ∉ shellMark.tail := by decide

theorem selectedShell?_of_holds {content text : List Char} (plain : '<' ∉ content)
    (holds : HoldsSelector content text) : selectedShell? text = some content := by
  obtain ⟨front, rest, first⟩ := holds
  have inhabited : shellMark ≠ [] := List.cons_ne_nil _ _
  have before : Skips shellMark front (shellMark ++ (content ++ (['<', '/'] ++ rest))) :=
    skips_of_barrier first fun c next => Option.some.inj next ▸ not_mem_tail_shellMark
  rw [selectedShell?, cut?_skip_mark inhabited before, Option.bind_eq_bind, Option.bind_some]
  dsimp only
  rw [cut?_skip_mark (List.cons_ne_nil _ _) (skips_of_head plain _ _)]
  rfl

variable {id reply : String}

theorem not_mem_written (front back : Blanks) : '<' ∉ written id front back := by
  have solid : isBlank '<' = false := by decide
  have delimiter : '<' ∈ Markup.delimiters := by decide
  rw [written, List.mem_append, List.mem_append]
  rintro ((among | among) | among)
  · exact front.not_mem solid among
  · exact Markup.not_mem_delimiters_of_mem_escape among delimiter
  · exact back.not_mem solid among

theorem trimChars_written (solid : Text.trim id = id) (front back : Blanks) :
    trimChars (written id front back) = (Markup.escape id).toList := by
  have solid : trimChars id.toList = id.toList := by
    rw [← String.toList_inj, Text.trim, String.toList_ofList] at solid
    exact solid
  rw [written, trimChars_around front.blank back.blank, Markup.trimChars_escape solid]

/-- **What is read of a shell's identifier is its written form.** -/
theorem shellId_of_gives (inhabited : id ≠ "") (solid : Text.trim id = id)
    (gives : GivesShell id reply) : shellId reply = .ok (Markup.escape id) := by
  have found : ∃ front back, (elementText? "rsp:ShellId" reply.toList).or
      (selectedShell? reply.toList) = some (written id front back) := by
    cases gives with
    | element front back holds =>
      refine ⟨front, back, ?_⟩
      rw [elementText?_of_holds (by decide) (not_mem_written front back) holds, Option.some_or]
    | selector front back absent holds =>
      refine ⟨front, back, ?_⟩
      rw [elementText?_of_absent absent, Option.none_or,
        selectedShell?_of_holds (not_mem_written front back) holds]
  obtain ⟨front, back, found⟩ := found
  have some : (Markup.escape id).toList.isEmpty = false := by
    refine Bool.eq_false_iff.mpr fun none => inhabited ?_
    have empty : Markup.escape id = "" := String.toList_inj.mp (List.isEmpty_iff.mp none)
    rw [← Markup.unescape_escape id, empty]
    rfl
  rw [shellId]
  dsimp only
  rw [found]
  dsimp only
  rw [trimChars_written solid, some, if_neg Bool.false_ne_true, String.ofList_toList]

/-- **What is read of a command's identifier is its written form.** -/
theorem commandId_of_gives (solid : Text.trim id = id) (gives : GivesCommand id reply) :
    commandId reply = .ok (Markup.escape id) := by
  obtain ⟨front, back, holds⟩ := gives
  rw [commandId, elementText?_of_holds (by decide) (not_mem_written front back) holds]
  dsimp only
  rw [trimChars_written solid, String.ofList_toList]

/-! ## Repeating them -/

/-- The identifiers of a shell that are read in an envelope. -/
def shellsIn (envelope : String) : List String :=
  (Markup.fieldTexts "<w:Selector Name=\"ShellId\">" "</w:Selector>" envelope).map Markup.unescape

/-- The identifiers of a command that are read in an envelope. -/
def commandsIn (envelope : String) : List String :=
  (Markup.fieldTexts "CommandId=\"" "\"" envelope).map Markup.unescape

theorem shellsIn_envelope {messageId : String} (uuid : isUuid messageId = true) (endpoint : String)
    (r : Request) : shellsIn (r.envelope endpoint messageId) = r.shell?.toList :=
  Request.unescape_fieldTexts_envelope endpoint messageId r (Request.escape_of_isUuid uuid) .shell

theorem commandsIn_envelope {messageId : String} (uuid : isUuid messageId = true) (endpoint : String)
    (r : Request) : commandsIn (r.envelope endpoint messageId) = r.command?.toList :=
  Request.unescape_fieldTexts_envelope endpoint messageId r (Request.escape_of_isUuid uuid) .command

/-- **What requests repeat is the written form of an identifier.** Whatever identifier a reply gives to
a shell, it is read, and each request with what is read tells the written form of the identifier to
those who read its selector; and so it is with a command. That is the identifier itself exactly if
none of the special characters is in it. -/
theorem identifiers_repeated (inhabited : id ≠ "") (solid : Text.trim id = id) {messageId : String}
    (uuid : isUuid messageId = true) (endpoint : String) :
    (∀ reply, GivesShell id reply → ∃ parsed, shellId reply = .ok parsed ∧
      ∀ r : Request, r.shell? = some parsed →
        shellsIn (r.envelope endpoint messageId) = [Markup.escape id]) ∧
    (∀ reply, GivesCommand id reply → ∃ parsed, commandId reply = .ok parsed ∧
      ∀ r : Request, r.command? = some parsed →
        commandsIn (r.envelope endpoint messageId) = [Markup.escape id]) ∧
    (Markup.escape id = id ↔ ∀ c ∈ id.toList, c ∉ ['&', '<', '>', '"', '\'']) := by
  refine ⟨fun reply gives => ?_, fun reply gives => ?_, Markup.escape_eq_self_iff⟩
  · refine ⟨_, shellId_of_gives inhabited solid gives, fun r names => ?_⟩
    rw [shellsIn_envelope uuid, names, Option.toList_some]
  · refine ⟨_, commandId_of_gives solid gives, fun r names => ?_⟩
    rw [commandsIn_envelope uuid, names, Option.toList_some]

/-- An identifier as it usually is. -/
theorem identifiers_repeated_usual :
    let id := "11111111-AAAA"
    let envelope := fun r : Request =>
      r.envelope "https://host:5986/wsman" "0f8e6a3c-1b2d-4c5e-9f70-a1b2c3d4e5f6"
    (∃ parsed, shellId (createResponse id) = .ok parsed ∧
      ∀ r : Request, r.shell? = some parsed → shellsIn (envelope r) = [id]) ∧
    ∃ parsed, commandId (commandResponse id) = .ok parsed ∧
      ∀ r : Request, r.command? = some parsed → commandsIn (envelope r) = [id] := by
  intro id envelope
  have facts : isUuid "0f8e6a3c-1b2d-4c5e-9f70-a1b2c3d4e5f6" = true ∧ Text.trim id = id ∧
      Markup.escape id = id := by decide +kernel
  obtain ⟨uuid, solid, same⟩ := facts
  obtain ⟨shell, command, -⟩ :=
    identifiers_repeated (by decide) solid uuid "https://host:5986/wsman"
  rw [same] at shell command
  exact ⟨shell _ (createResponse_gives id), command _ (commandResponse_gives id)⟩

/-- **An identifier with an ampersand in it**: what is read of it is another one, and requests with
that one speak of another shell and of another command. -/
theorem ampersand_repeated_escaped :
    let created := "<rsp:Shell><rsp:ShellId>SHELL&amp;1</rsp:ShellId></rsp:Shell>"
    let started :=
      "<rsp:CommandResponse><rsp:CommandId>CMD&amp;1</rsp:CommandId></rsp:CommandResponse>"
    let envelope := fun r : Request =>
      r.envelope "https://host:5986/wsman" "0f8e6a3c-1b2d-4c5e-9f70-a1b2c3d4e5f6"
    (GivesShell "SHELL&1" created ∧ shellId created = .ok "SHELL&amp;1" ∧
      shellsIn (envelope (.delete "SHELL&amp;1")) = ["SHELL&amp;1"] ∧
      ["SHELL&amp;1"] ≠ ["SHELL&1"]) ∧
    GivesCommand "CMD&1" started ∧ commandId started = .ok "CMD&amp;1" ∧
      commandsIn (envelope (.receive "SHELL&amp;1" "CMD&amp;1")) = ["CMD&amp;1"] ∧
      ["CMD&amp;1"] ≠ ["CMD&1"] := by
  intro created started envelope
  have facts : isUuid "0f8e6a3c-1b2d-4c5e-9f70-a1b2c3d4e5f6" = true ∧
      (createResponse "SHELL&1" = created ∧ Text.trim "SHELL&1" = "SHELL&1" ∧
        Markup.escape "SHELL&1" = "SHELL&amp;1") ∧
      commandResponse "CMD&1" = started ∧ Text.trim "CMD&1" = "CMD&1" ∧
        Markup.escape "CMD&1" = "CMD&amp;1" := by decide +kernel
  obtain ⟨uuid, ⟨shellReply, shellSolid, shell⟩, commandReply, commandSolid, command⟩ := facts
  have givesShell : GivesShell "SHELL&1" created := shellReply ▸ createResponse_gives "SHELL&1"
  have givesCommand : GivesCommand "CMD&1" started := commandReply ▸ commandResponse_gives "CMD&1"
  refine ⟨⟨givesShell, ?_, shellsIn_envelope uuid _ _, by decide⟩, givesCommand, ?_,
    commandsIn_envelope uuid _ _, by decide⟩
  · exact shell ▸ shellId_of_gives (by decide) shellSolid givesShell
  · exact command ▸ commandId_of_gives commandSolid givesCommand

end Hostlink.WinRm
