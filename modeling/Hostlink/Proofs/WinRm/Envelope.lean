import Hostlink.Proofs.Text.Template
import Hostlink.Proofs.WinRm.Isolation

/-!
# What an envelope says

The envelope of a request is a template of its kind with six texts given in it, `toList_envelope`.
So all that holds of templates holds of envelopes, whatever the endpoint, the shell, the command line
and the command's id are: the tags and attributes are those of the kind, and what stands in a field
is read back as it was given.

The identifier of a message is written as it comes, without escaping. It is made by the client
itself, from hexadecimal digits and hyphens, which no escaping would change.
-/

namespace Hostlink.WinRm.Request

open Text

/-! ## Kinds of requests -/

/-- The kind of a request: which of the five it is. -/
inductive Kind where
  | create
  | command
  | receive
  | signal
  | delete
  deriving DecidableEq

def kind : Request → Kind
  | create => .create
  | command .. => .command
  | receive .. => .receive
  | signal .. => .signal
  | delete .. => .delete

/-- The request of a kind with nothing given in it. -/
def Kind.blank : Kind → Request
  | create => .create
  | command => .command "" ""
  | receive => .receive "" ""
  | signal => .signal "" ""
  | delete => .delete ""

theorem kind_blank (k : Kind) : k.blank.kind = k := by
  cases k <;> rfl

theorem action_blank (r : Request) : r.kind.blank.action = r.action := by
  cases r <;> rfl

/-- The command that a request speaks of. -/
def command? : Request → Option String
  | receive _ id | signal _ id => some id
  | create | command .. | delete _ => none

/-! ## The template of a kind -/

/-- The fields of an envelope. -/
inductive Place where
  | endpoint
  | action
  | messageId
  | shell
  | line
  | command
  deriving DecidableEq

namespace Place

def opening : Place → String
  | endpoint => "<a:To>"
  | action => "<a:Action s:mustUnderstand=\"true\">"
  | messageId => "<a:MessageID>uuid:"
  | shell => "<w:Selector Name=\"ShellId\">"
  | line => "<rsp:Command>"
  | command => "CommandId=\""

def closing : Place → String
  | endpoint => "</a:To>"
  | action => "</a:Action>"
  | messageId => "</a:MessageID>"
  | shell => "</w:Selector>"
  | line => "</rsp:Command>"
  | command => "\""

/-- The piece of a template where a field stands. -/
def field (p : Place) : Markup.Piece Place := .field p.opening p p.closing

/-- A field on a line of its own. -/
def lineOf (p : Place) : List (Markup.Piece Place) := [.fixed "    " rfl, p.field, .fixed "\n" rfl]

end Place

/-- What is given in a field, if the envelope has it. -/
def given? (endpoint messageId : String) (r : Request) : Place → Option String
  | .endpoint => some endpoint
  | .action => some r.action
  | .messageId => some messageId
  | .shell => r.shell?
  | .line => r.line?
  | .command => r.command?

/-- What is given in a field. -/
def given (endpoint messageId : String) (r : Request) (p : Place) : String :=
  (r.given? endpoint messageId p).getD ""

namespace Kind

open Markup.Piece (fixed)
open Place (field)

def selector : Kind → List (Markup.Piece Place)
  | create => []
  | command | receive | signal | delete =>
    [fixed "<w:SelectorSet>" rfl, field .shell, fixed "</w:SelectorSet>" rfl]

def options : Kind → List (Markup.Piece Place)
  | create =>
    [fixed "<w:OptionSet><w:Option Name=\"WINRS_NOPROFILE\">TRUE</w:Option>" rfl,
      fixed "<w:Option Name=\"WINRS_CODEPAGE\">" rfl, fixed "65001" rfl,
      fixed "</w:Option></w:OptionSet>" rfl]
  | command =>
    [fixed "<w:OptionSet><w:Option Name=\"WINRS_CONSOLEMODE_STDIN\">TRUE</w:Option>" rfl,
      fixed "<w:Option Name=\"WINRS_SKIP_CMD_SHELL\">FALSE</w:Option></w:OptionSet>" rfl]
  | receive | signal | delete => []

def body : Kind → List (Markup.Piece Place)
  | create =>
    [fixed "<rsp:Shell><rsp:InputStreams>stdin</rsp:InputStreams>" rfl,
      fixed "<rsp:OutputStreams>stdout stderr</rsp:OutputStreams></rsp:Shell>" rfl]
  | command => [fixed "<rsp:CommandLine>" rfl, field .line, fixed "</rsp:CommandLine>" rfl]
  | receive =>
    [fixed "<rsp:Receive><rsp:DesiredStream " rfl, field .command,
      fixed ">stdout stderr</rsp:DesiredStream></rsp:Receive>" rfl]
  | signal =>
    [fixed "<rsp:Signal " rfl, field .command,
      fixed "><rsp:Code>http://schemas.microsoft.com/wbem/wsman/1/windows/shell/signal/terminate" rfl,
      fixed "</rsp:Code></rsp:Signal>" rfl]
  | delete => []

/-- The part of a template that all kinds begin with. -/
def front : List (Markup.Piece Place) :=
  [fixed "<?xml version=\"1.0\" encoding=\"UTF-8\"?>\n" rfl,
    fixed "<s:Envelope xmlns:s=\"http://www.w3.org/2003/05/soap-envelope\"" rfl,
    fixed " xmlns:a=\"http://schemas.xmlsoap.org/ws/2004/08/addressing\"" rfl,
    fixed " xmlns:w=\"http://schemas.dmtf.org/wbem/wsman/1/wsman.xsd\"" rfl,
    fixed " xmlns:rsp=\"http://schemas.microsoft.com/wbem/wsman/1/windows/shell\">\n" rfl,
    fixed "  <s:Header>\n" rfl] ++ Place.endpoint.lineOf ++
  [fixed "    <w:ResourceURI s:mustUnderstand=\"true\">" rfl,
    fixed "http://schemas.microsoft.com/wbem/wsman/1/windows/shell/cmd</w:ResourceURI>\n" rfl,
    fixed "    <a:ReplyTo>\n" rfl,
    fixed "      <a:Address s:mustUnderstand=\"true\">" rfl,
    fixed "http://schemas.xmlsoap.org/ws/2004/08/addressing/role/anonymous</a:Address>\n" rfl,
    fixed "    </a:ReplyTo>\n" rfl] ++ Place.action.lineOf ++ Place.messageId.lineOf ++
  [fixed "    <w:MaxEnvelopeSize s:mustUnderstand=\"true\">153600</w:MaxEnvelopeSize>\n" rfl,
    fixed "    <w:OperationTimeout>PT60S</w:OperationTimeout>\n" rfl,
    fixed "    " rfl]

/-- **The template of the envelopes of a kind.** -/
def template (k : Kind) : List (Markup.Piece Place) :=
  front ++ k.selector ++ k.options ++
  [fixed "\n" rfl, fixed "  </s:Header>\n" rfl, fixed "  <s:Body>" rfl] ++ k.body ++
  [fixed "</s:Body>\n" rfl, fixed "</s:Envelope>" rfl]

/-- The fields of a kind of envelope between the delimiters of a place: the place itself, if the
kind has it. -/
def places (k : Kind) (p : Place) : List Place :=
  if (k.blank.given? "" "" p).isSome then [p] else []

/-- **A search for the delimiters of a place finds that place**, in the template of each kind. -/
theorem finds_place (k : Kind) (p : Place) :
    Markup.finds p.opening p.closing k.template (k.places p) = true := by
  have all : ∀ k ∈ [create, command, receive, signal, delete],
      ∀ p ∈ [Place.endpoint, .action, .messageId, .shell, .line, .command],
        Markup.finds p.opening p.closing k.template (k.places p) = true := by
    decide +kernel
  refine all k ?_ p ?_
  · cases k <;> decide
  · cases p <;> decide

end Kind

theorem isSome_given?_blank (endpoint messageId : String) (r : Request) (p : Place) :
    (r.kind.blank.given? "" "" p).isSome = (r.given? endpoint messageId p).isSome := by
  cases r <;> cases p <;> rfl

/-! ## Envelopes -/

/-- **A field between two literals**, which the request writes together with its delimiters. -/
theorem write_around (given : Place → String) (p : Place) {front back before text behind : String}
    {frontChars backChars : List Char} {spelledFront : front = String.ofList frontChars}
    {spelledBack : back = String.ofList backChars} (opens : before = front ++ p.opening)
    (written : Markup.escape (given p) = text) (closes : behind = p.closing ++ back) :
    Markup.write given [.fixed front spelledFront, p.field, .fixed back spelledBack] =
      (before ++ text ++ behind).toList := by
  rw [Markup.write_fixed, Place.field, Markup.write_field, Markup.write_fixed, Markup.write_nil,
    opens, written, closes]
  simp only [String.toList_append, List.append_assoc, List.append_nil]

theorem toString_codepage : toString codepage = "65001" := by decide +kernel

theorem write_options (given : Place → String) (r : Request) :
    Markup.write given r.kind.options = r.options.toList := by
  cases r with
  | create =>
    show _ = ("<w:OptionSet><w:Option Name=\"WINRS_NOPROFILE\">TRUE</w:Option>" ++
      "<w:Option Name=\"WINRS_CODEPAGE\">" ++ toString codepage ++
      "</w:Option></w:OptionSet>").toList
    rw [toString_codepage]
    simp only [kind, Kind.options, Markup.write_fixed, Markup.write_nil, String.toList_append,
      List.append_assoc, List.append_nil, -String.reduceAppend, -String.reduceToList]
  | command =>
    show _ = String.toList (_ ++ _)
    simp only [kind, Kind.options, Markup.write_fixed, Markup.write_nil, String.toList_append,
      List.append_nil, -String.reduceAppend, -String.reduceToList]
  | receive | signal | delete => rfl

section Given

variable (endpoint messageId : String) (r : Request)

theorem write_selector :
    Markup.write (r.given endpoint messageId) r.kind.selector = r.selector.toList := by
  cases r with
  | create => rfl
  | command | receive | signal | delete => exact write_around _ .shell (by decide) rfl (by decide)

theorem write_body : Markup.write (r.given endpoint messageId) r.kind.body = r.body.toList := by
  cases r with
  | create =>
    show _ = String.toList (_ ++ _)
    simp only [kind, Kind.body, Markup.write_fixed, Markup.write_nil, String.toList_append,
      List.append_nil, -String.reduceAppend, -String.reduceToList]
  | command => exact write_around _ .line (by decide) rfl (by decide)
  | receive => exact write_around _ .command (by decide) rfl (by decide)
  | signal =>
    show Markup.write _ ([_, Place.command.field, _] ++ [_]) = String.toList (_ ++ _)
    rw [Markup.write_append, String.toList_append]
    refine congr (congrArg _ (write_around _ .command (by decide) rfl (by decide))) ?_
    exact List.append_nil _
  | delete => rfl

theorem escape_action : Markup.escape r.action = r.action := by
  have plain (k : Kind) : k.blank.action.toList.all (· ∉ Markup.special) = true := by
    cases k <;> decide +kernel
  rw [← action_blank]
  refine Markup.escape_of_plain fun c among => ?_
  simpa using List.all_eq_true.mp (plain r.kind) c among

/-- **An envelope is the template of its kind**, with the request's texts given in it. -/
theorem toList_envelope (plain : Markup.escape messageId = messageId) :
    (r.envelope endpoint messageId).toList =
      Markup.write (r.given endpoint messageId) r.kind.template := by
  -- the request writes a field together with its delimiters, the template piece by piece
  have address : Markup.write (r.given endpoint messageId) Place.endpoint.lineOf =
      ("    <a:To>" ++ Markup.escape endpoint ++ "</a:To>\n").toList :=
    write_around _ _ (by decide) rfl (by decide)
  have action : Markup.write (r.given endpoint messageId) Place.action.lineOf =
      ("    <a:Action s:mustUnderstand=\"true\">" ++ r.action ++ "</a:Action>\n").toList :=
    write_around _ _ (by decide) (escape_action r) (by decide)
  have identifier : Markup.write (r.given endpoint messageId) Place.messageId.lineOf =
      ("    <a:MessageID>uuid:" ++ messageId ++ "</a:MessageID>\n").toList :=
    write_around _ _ (by decide) plain (by decide)
  unfold envelope Kind.template Kind.front
  simp only [Markup.write_append, address, action, identifier, write_selector, write_options,
    write_body, Markup.write_fixed, Markup.write_nil, String.toList_append, List.append_assoc,
    List.append_nil, -String.reduceAppend, -String.reduceToList]

/-- **Between the delimiters of a place stands what was given there**, escaped. -/
theorem fieldTexts_envelope (plain : Markup.escape messageId = messageId) (p : Place) :
    Markup.fieldTexts p.opening p.closing (r.envelope endpoint messageId) =
      (r.given? endpoint messageId p).toList.map Markup.escape := by
  rw [Markup.fieldTexts_of_write (r.kind.finds_place p) (toList_envelope endpoint messageId r plain),
    Kind.places, isSome_given?_blank]
  cases found : r.given? endpoint messageId p with
  | none => rfl
  | some text =>
    have given : r.given endpoint messageId p = text := congrArg (Option.getD · "") found
    exact congrArg (fun text => [Markup.escape text]) given

/-- What was given in a place is read back there. -/
theorem unescape_fieldTexts_envelope (plain : Markup.escape messageId = messageId) (p : Place) :
    (Markup.fieldTexts p.opening p.closing (r.envelope endpoint messageId)).map Markup.unescape =
      (r.given? endpoint messageId p).toList := by
  rw [fieldTexts_envelope endpoint messageId r plain, List.map_map]
  exact (List.map_congr_left fun text _ => Markup.unescape_escape text).trans (List.map_id _)

/-- The delimiters of an envelope are those of its kind's template. -/
theorem markup_envelope (plain : Markup.escape messageId = messageId) :
    Markup.markup (r.envelope endpoint messageId).toList =
      r.kind.template.flatMap Markup.Piece.ownMarkup := by
  rw [toList_envelope endpoint messageId r plain, Markup.markup_write]

end Given

/-- The identifier of a message is its own written form. -/
theorem escape_of_isUuid {messageId : String} (uuid : isUuid messageId = true) :
    Markup.escape messageId = messageId := by
  have apart : Markup.special.all (fun c => !isHexDigit c && c != '-') = true := by decide
  refine Markup.escape_of_plain fun c among isSpecial => ?_
  have outside := List.all_eq_true.mp apart c isSpecial
  simp only [Bool.and_eq_true, Bool.not_eq_true', bne_iff_ne, ne_eq] at outside
  exact not_mem_of_isUuid uuid outside.1 outside.2 among

/-- **Envelopes keep what is given apart from what is theirs.** Whatever the endpoint, the shell, the
command line and the command's id are, the delimiters of an envelope are those of an empty request of
its kind, the action is that of its kind, and the endpoint, the shell, the command line and the
command's id are read back between their delimiters, each in its place and nowhere else. The
escaping that this rests on is the replacement of the five special characters in turn. -/
theorem envelope_lossless (r : Request) (endpoint messageId : String)
    (uuid : isUuid messageId = true) :
    Markup.markup (r.envelope endpoint messageId).toList =
      Markup.markup (r.kind.blank.envelope "" "").toList ∧
    Markup.fieldTexts "<a:Action s:mustUnderstand=\"true\">" "</a:Action>"
      (r.envelope endpoint messageId) = [r.kind.blank.action] ∧
    (Markup.fieldTexts "<a:To>" "</a:To>" (r.envelope endpoint messageId)).map Markup.unescape =
      [endpoint] ∧
    (Markup.fieldTexts "<w:Selector Name=\"ShellId\">" "</w:Selector>"
      (r.envelope endpoint messageId)).map Markup.unescape = r.shell?.toList ∧
    (Markup.fieldTexts "<rsp:Command>" "</rsp:Command>"
      (r.envelope endpoint messageId)).map Markup.unescape = r.line?.toList ∧
    (Markup.fieldTexts "CommandId=\"" "\"" (r.envelope endpoint messageId)).map Markup.unescape =
      r.command?.toList ∧
    ∀ text, Markup.escapeInTurn text = Markup.escape text := by
  have plain := escape_of_isUuid uuid
  have back := unescape_fieldTexts_envelope endpoint messageId r plain
  refine ⟨?_, ?_, back .endpoint, back .shell, back .line, back .command, Markup.escapeInTurn_eq⟩
  · rw [markup_envelope endpoint messageId r plain, markup_envelope "" "" r.kind.blank rfl,
      kind_blank]
  · rw [action_blank, ← escape_action]
    exact fieldTexts_envelope endpoint messageId r plain .action

/-- The envelope of a command line that looks like markup and has entities in it, for an endpoint and
a shell of that kind. -/
def hostileEnvelope : String :=
  envelope "https://host:5986/wsman?a=1&lt=</a:To>" "0f8e6a3c-1b2d-4c5e-9f70-a1b2c3d4e5f6"
    (.command "1</w:Selector>CommandId=\"2\"" "echo \"&lt;\" </rsp:Command><rsp:Command>&amp;")

theorem envelope_lossless_hostile :
    isUuid "0f8e6a3c-1b2d-4c5e-9f70-a1b2c3d4e5f6" = true ∧
    Markup.markup hostileEnvelope.toList = Markup.markup (Kind.command.blank.envelope "" "").toList ∧
    Markup.fieldTexts "<a:Action s:mustUnderstand=\"true\">" "</a:Action>" hostileEnvelope =
      ["http://schemas.microsoft.com/wbem/wsman/1/windows/shell/Command"] ∧
    (Markup.fieldTexts "<a:To>" "</a:To>" hostileEnvelope).map Markup.unescape =
      ["https://host:5986/wsman?a=1&lt=</a:To>"] ∧
    (Markup.fieldTexts "<w:Selector Name=\"ShellId\">" "</w:Selector>" hostileEnvelope).map
      Markup.unescape = ["1</w:Selector>CommandId=\"2\""] ∧
    (Markup.fieldTexts "<rsp:Command>" "</rsp:Command>" hostileEnvelope).map Markup.unescape =
      ["echo \"&lt;\" </rsp:Command><rsp:Command>&amp;"] ∧
    (Markup.fieldTexts "CommandId=\"" "\"" hostileEnvelope).map Markup.unescape = [] := by
  have uuid : isUuid "0f8e6a3c-1b2d-4c5e-9f70-a1b2c3d4e5f6" = true := by decide +kernel
  obtain ⟨markup, action, endpoint, shell, line, command, _⟩ := envelope_lossless
    (.command "1</w:Selector>CommandId=\"2\"" "echo \"&lt;\" </rsp:Command><rsp:Command>&amp;")
    "https://host:5986/wsman?a=1&lt=</a:To>" _ uuid
  exact ⟨uuid, markup, action, endpoint, shell, line, command⟩

end Hostlink.WinRm.Request
