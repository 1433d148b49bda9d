import Hostlink.Proofs.Ssh.Channel

/-!
# What counts of a channel's messages

A channel is heard up to its first close, or as long as messages come. Of what is heard, three
readings count: the octets of the standard output, the octets of the standard error, and the reports
of how the command ended. Messages that agree in these come to the same outcome: it does not matter
how the octets are cut, between which reports they stand, or what else is said (`Rearranged`).
Octets are read as text only when they are all together, since a character may be cut in two.

`channel_output` says this of a command that was sent, and of the connection that holds its outcome
against the expected code.
-/

namespace Hostlink

/-- A command answers an outcome exactly if its code is the expected one. -/
theorem Command.check_eq_ok_iff (command : Command) (o answer : Outcome) :
    command.check o = .ok answer ↔ answer = o ∧ o.exitCode = command.expectedCode := by
  unfold check
  split
  next expected =>
    rw [and_iff_left expected, Except.ok.injEq]
    exact eq_comm
  next unexpected =>
    refine iff_of_false ?_ fun h => unexpected h.2
    rintro ⟨⟩

namespace Ssh

/-- **What is heard of messages**: those before the first close, or all of them if there is none. -/
inductive Hears : List Message → List Message → Prop
  | toEnd {messages : List Message} (unclosed : .close ∉ messages) : Hears messages messages
  | toClose {before : List Message} (unclosed : .close ∉ before) (after : List Message) :
      Hears (before ++ .close :: after) before

theorem exists_hears (messages : List Message) : ∃ before, Hears messages before := by
  by_cases closed : .close ∈ messages
  · obtain ⟨before, after, rfl, unclosed⟩ := List.eq_append_cons_of_mem closed
    exact ⟨before, .toClose unclosed after⟩
  · exact ⟨messages, .toEnd closed⟩

/-- What is heard is what is gathered. -/
theorem Hears.takeWhile_eq {messages before : List Message} (heard : Hears messages before) :
    messages.takeWhile (· != .close) = before := by
  have open_ (unclosed : .close ∉ before) : ∀ m ∈ before, (m != .close) = true := by
    intro m among
    exact bne_iff_ne.mpr fun same => unclosed (same ▸ among)
  cases heard with
  | toEnd unclosed => exact List.takeWhile_eq_self_iff.mpr (open_ unclosed)
  | toClose unclosed after =>
    rw [List.takeWhile_append_of_pos (open_ unclosed), List.takeWhile_cons_of_neg (by decide),
      List.append_nil]

/-- **Messages that say the same**: the octets of either stream are the same when they are put
together, and so are the reports, in their order. -/
structure Rearranged (messages messages' : List Message) : Prop where
  stdout : messages.flatMap (·.stdout) = messages'.flatMap (·.stdout)
  stderr : messages.flatMap (·.stderr) = messages'.flatMap (·.stderr)
  reports : messages.filterMap (·.report?) = messages'.filterMap (·.report?)

namespace Message

/-- Whether a message is of one of the kinds that count. -/
def counts : Message → Bool
  | .data _ | .exitStatus _ | .exitSignal _ => true
  | .extended stream _ => stream = 1
  | .eof | .success | .failure | .other | .close => false

/-- A message of any other kind says nothing. -/
theorem silent_of_not_counts {m : Message} (h : m.counts = false) :
    m.stdout = [] ∧ m.stderr = [] ∧ m.report? = none := by
  cases m with
  | data | exitStatus | exitSignal => cases h
  | extended stream bytes => exact ⟨rfl, if_neg (of_decide_eq_false h), rfl⟩
  | eof | success | failure | other | close => exact ⟨rfl, rfl, rfl⟩

/-- A status is read as a number with a sign, in two's complement. -/
theorem report?_exitStatus (status : UInt32) :
    ∃ code, (Message.exitStatus status).report? = some code ∧
      code.toInt =
        if status.toNat < 2147483648 then (status.toNat : Int) else status.toNat - 4294967296 := by
  have half : 2 * status.toNat < 4294967296 ↔ status.toNat < 2147483648 := by omega
  refine ⟨status.toInt32, rfl, ?_⟩
  rw [← Int32.toInt_toBitVec, UInt32.toBitVec_toInt32, BitVec.toInt_eq_toNat_cond]
  exact if_congr half rfl rfl

end Message

/-- Leaving out what is of another kind changes nothing that is said. -/
theorem rearranged_filter (messages : List Message) :
    Rearranged messages (messages.filter (·.counts)) := by
  induction messages with
  | nil => exact ⟨rfl, rfl, rfl⟩
  | cons m messages ih =>
    obtain ⟨out, err, reports⟩ := ih
    cases h : m.counts with
    | true =>
      rw [List.filter_cons_of_pos h]
      refine ⟨?_, ?_, ?_⟩
      · rw [List.flatMap_cons, List.flatMap_cons, out]
      · rw [List.flatMap_cons, List.flatMap_cons, err]
      · rw [List.filterMap_cons, List.filterMap_cons, reports]
    | false =>
      obtain ⟨noOut, noErr, noReport⟩ := Message.silent_of_not_counts h
      rw [List.filter_cons_of_neg (Bool.eq_false_iff.mp h)]
      refine ⟨?_, ?_, ?_⟩
      · rw [List.flatMap_cons, noOut, List.nil_append, out]
      · rw [List.flatMap_cons, noErr, List.nil_append, err]
      · rw [List.filterMap_cons_none noReport, reports]

/-- What is heard is what a channel comes to, by its three readings. -/
theorem collect_of_hears {messages before : List Message} (heard : Hears messages before) :
    collect messages =
      ⟨Utf8.decodeLossy (before.flatMap (·.stdout)), Utf8.decodeLossy (before.flatMap (·.stderr)),
        (before.filterMap (·.report?)).getLast?.getD 0⟩ := by
  rw [collect_eq, heard.takeWhile_eq]

/-- A wire with an open session whose next channel brings these messages; the session may be lost behind
them. -/
def Wire.bringing (w : Wire) (messages : List Message) (lost : Bool) : Wire :=
  { w with
    lost := false
    openings := .opened messages (if lost then some messages.length else none) :: w.openings }

/-- What is brought has come. -/
theorem arriving_bringing (messages : List Message) (lost : Bool) :
    arriving messages (if lost then some messages.length else none) = messages := by
  cases lost with
  | true => exact List.take_length
  | false => rfl

theorem Wire.exec_bringing (w : Wire) {messages before : List Message} (lost : Bool)
    (heard : Hears messages before) (text : String) :
    (Wire.exec text (w.bringing messages lost)).1 =
      .ok
        ⟨Utf8.decodeLossy (before.flatMap (·.stdout)),
          Utf8.decodeLossy (before.flatMap (·.stderr)),
          (before.filterMap (·.report?)).getLast?.getD 0⟩ := by
  have exec := Wire.exec_of_opened (w := w.bringing messages lost) rfl rfl text
  rw [exec, arriving_bringing, collect_of_hears heard]

/-- **The outcome of a command is what its channel was heard to say.** Whatever messages come on the
channel of a command that was sent, and whether or not the session is lost behind them, it is heard
up to the first close or the end. The outcome is the octets of each stream, put together and then
read, and the last report, or zero; a status is reported as a number with a sign. The connection
answers it exactly if the code is the expected one. What is of another kind can be left out, and a
channel that says the same, however it is cut and mixed and whatever follows its close, comes to the
same. -/
theorem channel_output :
    (∀ messages, ∃ before, Hears messages before) ∧
    (∀ status : UInt32, ∃ code, (Message.exitStatus status).report? = some code ∧ code.toInt =
      if status.toNat < 2147483648 then (status.toNat : Int) else status.toNat - 4294967296) ∧
    ∀ (w : Wire) (messages before : List Message) (lost : Bool), Hears messages before →
      let outcome : Outcome :=
        ⟨Utf8.decodeLossy (before.flatMap (·.stdout)), Utf8.decodeLossy (before.flatMap (·.stderr)),
          (before.filterMap (·.report?)).getLast?.getD 0⟩
      (∀ text, (Wire.exec text (w.bringing messages lost)).1 = .ok outcome) ∧
      (∀ (session : Session) (host : String) (command : Command) (answer : Outcome),
        (Connection.run ⟨.connected, some session, host⟩ command (w.bringing messages lost)).1 =
            .ok answer ↔
          answer = outcome ∧ outcome.exitCode = command.expectedCode) ∧
      Rearranged before (before.filter (·.counts)) ∧
      ∀ (w' : Wire) (messages' before' : List Message) (lost' : Bool), Hears messages' before' →
        Rearranged before before' →
        ∀ text, (Wire.exec text (w'.bringing messages' lost')).1 = .ok outcome := by
  refine ⟨exists_hears, Message.report?_exitStatus, fun w messages before lost heard => ?_⟩
  refine ⟨w.exec_bringing lost heard, fun session host command answer => ?_,
    rearranged_filter before, fun w' messages' before' lost' heard' same text => ?_⟩
  · rw [Connection.run_of_opened (w.bringing messages lost) rfl rfl session host command,
      arriving_bringing, collect_of_hears heard]
    exact command.check_eq_ok_iff _ answer
  · rw [w'.exec_bringing lost' heard', ← same.stdout, ← same.stderr, ← same.reports]

/-- A character is cut in two, with a status between its halves and a line that is not heard. -/
theorem channel_output_cut :
    let cut : List Message :=
      [.data [0xC3], .extended 1 [0x21], .exitStatus 4294967294, .other, .data [0xA9]]
    let whole : List Message := [.exitStatus 4294967294, .data [0xC3, 0xA9], .extended 1 [0x21]]
    Hears (cut ++ .close :: [.data [0x58]]) cut ∧ Rearranged cut whole ∧
      (Wire.exec "id" (Wire.losing.bringing (cut ++ .close :: [.data [0x58]]) false)).1 =
        .ok ⟨"é", "!", -2⟩ ∧
      (Wire.exec "id" (Wire.losing.bringing whole true)).1 = .ok ⟨"é", "!", -2⟩ := by
  intro cut whole
  have heard : Hears (cut ++ .close :: [.data [0x58]]) cut := .toClose (by decide) _
  have same : Rearranged cut whole := ⟨rfl, rfl, rfl⟩
  obtain ⟨exec, -, -, again⟩ := channel_output.2.2 .losing _ cut false heard
  exact ⟨heard, same, exec "id", again .losing whole whole true (.toEnd (by decide)) same "id"⟩

end Ssh

end Hostlink
