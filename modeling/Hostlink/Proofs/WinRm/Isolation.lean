import Hostlink.Proofs.WinRm.Effect
import Hostlink.Proofs.WinRm.Staging

/-!
# Staged scripts on one target

Any number of staged executions may share a target, each with the UUID of its own, and their lines
may come in any order that keeps the order of each execution. `staged_executions_isolated` says that
they do not meet: what is run is the script of the execution that asks for it, whole; no line
changes the file of another execution; and behind the cleanup of an execution its file is gone.

The proof compares with an execution that has the target to itself. A line changes the file of its
own execution at most, and what it makes of that file depends on that file only, so in any order
each file goes the way it goes alone, `files_alone`. What an execution does alone is a walk along its
own lines, and `StagedExecution.next_line` says what the next one can be.

Nothing is asked of the disk at the start: the line that creates a file replaces what was there.
-/

namespace Hostlink.WinRm

/-! ## Names of files -/

/-- A hexadecimal digit as a UUID is written with. -/
def isHexDigit (c : Char) : Bool := ('0' ≤ c && c ≤ '9') || ('a' ≤ c && c ≤ 'f')

/-- **The text of a UUID**: groups of eight, four, four, four and twelve digits with hyphens between
them. -/
def isUuid (id : String) : Bool :=
  id.toList.length == 36 &&
    id.toList.zipIdx.all fun (c, i) => if i ∈ [8, 13, 18, 23] then c == '-' else isHexDigit c

/-- A UUID is written without quotation marks. -/
theorem not_mem_of_isUuid {id : String} (h : isUuid id = true) {c : Char} (digit : isHexDigit c = false)
    (hyphen : c ≠ '-') : c ∉ id.toList := by
  intro hc
  obtain ⟨i, hi⟩ := List.mem_iff_getElem?.mp hc
  have place := List.all_eq_true.mp (Bool.and_eq_true_iff.mp h).2 (c, i)
    (List.mk_mem_zipIdx_iff_getElem?.mpr hi)
  simp only at place
  split at place
  next => exact hyphen (eq_of_beq place)
  next => rw [digit] at place; cases place

namespace StagedScript

theorem path_toList (id text : String) :
    (ofScript id text).path.toList =
      (stagingDir ++ "\\script-").toList ++ (id.toList ++ ".ps1".toList) := by
  simp only [ofScript, String.toList_append, List.append_assoc]

/-- **A path named by a UUID stays inside its quotation marks.** -/
theorem quotable_of_isUuid {id : String} (h : isUuid id = true) (text : String) :
    Effect.IsQuotable (ofScript id text).path := by
  have around (c : Char) (front : c ∉ (stagingDir ++ "\\script-").toList) (back : c ∉ ".ps1".toList)
      (inside : c ∉ id.toList) : c ∉ (ofScript id text).path.toList := by
    rw [path_toList, List.mem_append, List.mem_append]
    rintro (hc | hc | hc)
    · exact front hc
    · exact inside hc
    · exact back hc
  constructor
  · exact around '\'' (by decide +kernel) (by decide +kernel)
      (not_mem_of_isUuid h (by decide) (by decide))
  · exact around '"' (by decide +kernel) (by decide +kernel)
      (not_mem_of_isUuid h (by decide) (by decide))

/-- **Different ids name different files.** -/
theorem id_of_path {id id' text text' : String}
    (h : (ofScript id text).path = (ofScript id' text').path) : id = id' := by
  have chars := congrArg String.toList h
  rw [path_toList, path_toList] at chars
  exact String.toList_inj.mp (List.append_cancel_right (List.append_cancel_left chars))

/-! ## One script on a disk -/

variable {id text : String}

/-- Lines that append pieces append them all. -/
theorem carryOutAll_appendLines {script : StagedScript} (quotable : Effect.IsQuotable script.path)
    (contents : List Bytes) {d : Disk} {old : Bytes} (h : d.files script.path = some old) :
    (d.carryOutAll (contents.map fun content =>
      script.appendLine (.ofList (Base64.encode content)))).files script.path =
      some (old ++ contents.flatten) := by
  induction contents generalizing d old with
  | nil => rw [List.flatten_nil, List.append_nil]; exact h
  | cons content contents ih =>
    have first : (d.carryOut (script.appendLine (.ofList (Base64.encode content)))).files
        script.path = some (old ++ content) := by
      rw [Disk.carryOut_of_effect (Effect.ofLine_appendLine quotable content), Disk.apply, h,
        Disk.put_same, Option.getD_some]
    rw [List.flatten_cons, ← List.append_assoc, List.map_cons, Disk.carryOutAll_cons]
    exact ih first

/-- **The file is filled with the whole script**: behind the lines that have to succeed before it is
run, it holds the byte order mark and the text, whatever the disk held before. -/
theorem carryOutAll_setUpLines (quotable : Effect.IsQuotable (ofScript id text).path) (d : Disk) :
    (d.carryOutAll (ofScript id text).setUpLines).files (ofScript id text).path =
      some (0xFF :: 0xFE :: Utf16.encode text) := by
  have created : ((d.carryOut ensureDirLine).carryOut (ofScript id text).createLine).files
      (ofScript id text).path = some [0xFF, 0xFE] := by
    rw [Disk.carryOut_of_effect (Effect.ofLine_createLine quotable), Disk.apply, Disk.put_same]
  rw [setUpLines, Effect.appendLines_ofScript, Disk.carryOutAll_cons, Disk.carryOutAll_cons,
    carryOutAll_appendLines quotable _ created, flatten_pieces]
  rfl

theorem carryOut_cleanupLine {script : StagedScript} (quotable : Effect.IsQuotable script.path)
    (d : Disk) : (d.carryOut script.cleanupLine).files script.path = none := by
  rw [Disk.carryOut_of_effect (Effect.ofLine_cleanupLine quotable), Disk.apply, Disk.put_same]

end StagedScript

/-- The lines before the file is run fill it: they run nothing, and change no other file. -/
theorem StagedScript.effect_of_setUpLine {id text line : String}
    (quotable : Effect.IsQuotable (ofScript id text).path)
    (h : line ∈ (ofScript id text).setUpLines) :
    ∃ effect, Effect.ofLine line = some effect ∧ (∀ path, effect ≠ .run path) ∧
      ∀ path, effect.changed? = some path → path = (ofScript id text).path := by
  rw [setUpLines, Effect.appendLines_ofScript, List.mem_cons, List.mem_cons, List.mem_map] at h
  rcases h with rfl | rfl | ⟨content, _, rfl⟩
  · refine ⟨_, Effect.ofLine_ensureDirLine, fun path run => ?_, fun path same => ?_⟩
    · cases run
    · cases same
  · refine ⟨_, Effect.ofLine_createLine quotable, fun path run => ?_, fun path same => ?_⟩
    · cases run
    · exact (Option.some.inj same).symm
  · refine ⟨_, Effect.ofLine_appendLine quotable content, fun path run => ?_, fun path same => ?_⟩
    · cases run
    · exact (Option.some.inj same).symm

/-! ## One execution -/

/-- **A staged execution**: a command that is run on some connection, whatever its state is and
whatever the endpoint does, under a UUID of its own and with a staged plan. -/
structure StagedExecution where
  connection : Connection
  wire : Wire
  id : String
  command : Command
  uuid : isUuid id = true
  staged : Plan.ofCommand id command = .staged (.ofScript id command.text)

namespace StagedExecution

def script (e : StagedExecution) : StagedScript := .ofScript e.id e.command.text

/-- The lines that the execution asks to start, in order. -/
def lines (e : StagedExecution) : List String :=
  commandLines ((e.connection.run e.id e.command e.wire).2.exchanges.drop e.wire.exchanges.length)

theorem quotable (e : StagedExecution) : Effect.IsQuotable e.script.path :=
  StagedScript.quotable_of_isUuid e.uuid e.command.text

/-- **The lines of an execution** are the first of its script's lines, and behind them the cleanup
or nothing. -/
theorem lines_shape (e : StagedExecution) :
    ∃ sent, sent <+: e.script.lines ∧ (e.lines = sent ∨ e.lines = sent ++ [e.script.cleanupLine]) := by
  rcases e.connection.run_refused_or_session e.id e.command e.wire with ⟨fault, h⟩ | ⟨session, h⟩
  · refine ⟨[], List.nil_prefix, .inl ?_⟩
    rw [lines, h, List.drop_length]
    rfl
  · obtain ⟨c, w', sent⟩ := session.run_staged e.staged e.wire
    rw [lines, h, sent.run, sent.exchanges, List.drop_left, c.commandLines_exchanges]
    refine ⟨c.steps.map (·.line), c.inOrder.firstLines, ?_⟩
    cases c.cleanup with
    | none => exact .inl (List.append_nil _)
    | some cleanup => exact .inr rfl

/-- **What the next line can be**: one that fills the file; the one that runs it, behind all that
fill it; or the cleanup, behind which there is nothing. -/
theorem next_line (e : StagedExecution) {own : List String} {line : String}
    (h : own ++ [line] <+: e.lines) :
    line ∈ e.script.setUpLines ∨ (own = e.script.setUpLines ∧ line = e.script.runLine) ∨
      (line = e.script.cleanupLine ∧ ∀ more, own ++ line :: more <+: e.lines → more = []) := by
  obtain ⟨sent, first, shape⟩ := e.lines_shape
  have inScript (h : own ++ [line] <+: sent) :
      line ∈ e.script.setUpLines ∨ (own = e.script.setUpLines ∧ line = e.script.runLine) := by
    rcases List.prefix_concat_iff.mp (h.trans first) with all | part
    · obtain ⟨rfl, last⟩ := List.append_inj' all rfl
      exact .inr ⟨rfl, List.singleton_inj.mp last⟩
    · exact .inl (part.subset (List.mem_append_right _ List.mem_cons_self))
  rcases shape with shape | shape
  · rw [shape] at h
    rcases inScript h with h | h
    · exact .inl h
    · exact .inr (.inl h)
  · rw [shape] at h ⊢
    rcases List.prefix_concat_iff.mp h with all | part
    · -- the line stands where the cleanup does, and the lines of the execution end there
      obtain ⟨rfl, last⟩ := List.append_inj' all rfl
      refine .inr (.inr ⟨List.singleton_inj.mp last, fun more h => ?_⟩)
      have length := h.length_le
      simp only [List.length_append, List.length_cons, List.length_nil] at length
      exact List.length_eq_zero_iff.mp (by omega)
    · rcases inScript part with h | h
      · exact .inl h
      · exact .inr (.inl h)

/-- **A line of an execution is understood**; it runs the file only if it is the line for that, and
it changes the file of the execution at most. -/
theorem effect_of_line (e : StagedExecution) {line : String} (h : line ∈ e.lines) :
    ∃ effect, Effect.ofLine line = some effect ∧
      (∀ path, effect = .run path → line = e.script.runLine) ∧
      ∀ path, effect.changed? = some path → path = e.script.path := by
  obtain ⟨own, rest, split⟩ := List.append_of_mem h
  have next : own ++ [line] <+: e.lines := ⟨rest, by rw [split, List.append_assoc]; rfl⟩
  rcases e.next_line next with setUp | ⟨_, rfl⟩ | ⟨rfl, _⟩
  · obtain ⟨effect, understood, runsNot, own⟩ :=
      StagedScript.effect_of_setUpLine e.quotable setUp
    exact ⟨effect, understood, fun path run => absurd run (runsNot path), own⟩
  · refine ⟨_, Effect.ofLine_runLine e.quotable, fun _ _ => rfl, fun path same => ?_⟩
    cases same
  · refine ⟨_, Effect.ofLine_cleanupLine e.quotable, fun path run => ?_, fun path same => ?_⟩
    · cases run
    · exact (Option.some.inj same).symm

/-- When the turn of the line that runs the file comes, all lines that fill the file were sent. -/
theorem own_of_runLine (e : StagedExecution) {own : List String}
    (h : own ++ [e.script.runLine] <+: e.lines) : own = e.script.setUpLines := by
  rcases e.next_line h with setUp | ⟨all, _⟩ | ⟨same, _⟩
  · obtain ⟨effect, understood, runsNot, _⟩ := StagedScript.effect_of_setUpLine e.quotable setUp
    rw [Effect.ofLine_runLine e.quotable] at understood
    exact absurd (Option.some.inj understood).symm (runsNot _)
  · exact all
  · exact absurd same e.script.runLine_ne_cleanupLine

theorem nothing_behind_cleanup (e : StagedExecution) {own more : List String}
    (h : own ++ e.script.cleanupLine :: more <+: e.lines) : more = [] := by
  have next : own ++ [e.script.cleanupLine] <+: e.lines := by
    refine List.IsPrefix.trans ⟨more, ?_⟩ h
    rw [List.append_assoc]
    rfl
  rcases e.next_line next with setUp | ⟨_, same⟩ | ⟨_, last⟩
  · exact absurd (List.mem_append_left _ setUp) e.script.cleanupLine_not_mem
  · exact absurd same.symm e.script.runLine_ne_cleanupLine
  · exact last more h

end StagedExecution

/-! ## Many executions -/

/-- The lines of one execution in a schedule, in order. -/
def ownLines {ι : Type} [DecidableEq ι] (i : ι) (schedule : List (ι × String)) : List String :=
  schedule.filterMap fun (j, line) => if j = i then some line else none

section Schedule

variable {ι : Type} {execution : ι → StagedExecution}

/-- A line leaves the files of all other executions as they are. -/
theorem carryOut_other (distinct : Function.Injective fun i => (execution i).id) {i j : ι}
    (other : j ≠ i) {line : String} (h : line ∈ (execution i).lines) (d : Disk) :
    (d.carryOut line).files (execution j).script.path = d.files (execution j).script.path := by
  obtain ⟨effect, understood, _, own⟩ := (execution i).effect_of_line h
  rw [Disk.carryOut_of_effect understood]
  refine d.apply_other fun changed => other (distinct ?_)
  exact StagedScript.id_of_path (own _ changed)

variable [DecidableEq ι]

/-- **An interleaving**: of each execution, the lines from the first on as far as they have come, in
their order. -/
def Interleaves (execution : ι → StagedExecution) (schedule : List (ι × String)) : Prop :=
  ∀ i, ownLines i schedule <+: (execution i).lines

theorem Interleaves.mem_lines {schedule : List (ι × String)} (h : Interleaves execution schedule)
    {i : ι} {line : String} (scheduled : (i, line) ∈ schedule) : line ∈ (execution i).lines := by
  refine (h i).subset (List.mem_filterMap.mpr ⟨(i, line), scheduled, ?_⟩)
  exact if_pos rfl

/-- **Each file goes the way it goes alone.** By induction on the schedule, over any two disks that
agree on the file: lines of the execution keep them in agreement, and all others leave the file. -/
theorem files_alone (distinct : Function.Injective fun i => (execution i).id) (i : ι)
    {schedule : List (ι × String)}
    (scheduled : ∀ entry ∈ schedule, entry.2 ∈ (execution entry.1).lines) {d d' : Disk}
    (agree : d.files (execution i).script.path = d'.files (execution i).script.path) :
    (d.carryOutAll (schedule.map (·.2))).files (execution i).script.path =
      (d'.carryOutAll (ownLines i schedule)).files (execution i).script.path := by
  induction schedule generalizing d d' with
  | nil => exact agree
  | cons entry schedule ih =>
    obtain ⟨j, line⟩ := entry
    rw [List.forall_mem_cons] at scheduled
    simp only [List.map_cons, Disk.carryOutAll_cons]
    by_cases same : j = i
    · have own : ownLines i ((j, line) :: schedule) = line :: ownLines i schedule := by
        simp only [ownLines, List.filterMap_cons, same, if_true]
      rw [own, Disk.carryOutAll_cons]
      exact ih scheduled.2 (Disk.carryOut_congr agree line)
    · have own : ownLines i ((j, line) :: schedule) = ownLines i schedule := by
        simp only [ownLines, List.filterMap_cons, same, if_false]
      rw [own]
      refine ih scheduled.2 ((carryOut_other distinct (Ne.symm same) scheduled.1 d).trans agree)

theorem ownLines_append (i : ι) (before after : List (ι × String)) :
    ownLines i (before ++ after) = ownLines i before ++ ownLines i after :=
  List.filterMap_append

theorem ownLines_turn (i : ι) (line : String) (after : List (ι × String)) :
    ownLines i ((i, line) :: after) = line :: ownLines i after := by
  simp only [ownLines, List.filterMap_cons, if_true]

/-- A part of a schedule that starts where the schedule starts is an interleaving too. -/
theorem Interleaves.part {schedule part : List (ι × String)} (h : Interleaves execution schedule)
    (first : part <+: schedule) : Interleaves execution part := by
  intro i
  obtain ⟨rest, rfl⟩ := first
  have whole := h i
  rw [ownLines_append] at whole
  exact (List.prefix_append _ _).trans whole

/-- At any point of an interleaving, the file of an execution is as the execution alone would have
left it by its lines so far. -/
theorem Interleaves.files_alone {schedule : List (ι × String)} (h : Interleaves execution schedule)
    (distinct : Function.Injective fun i => (execution i).id) (i : ι) (disk : Disk) :
    (disk.carryOutAll (schedule.map (·.2))).files (execution i).script.path =
      (disk.carryOutAll (ownLines i schedule)).files (execution i).script.path :=
  WinRm.files_alone distinct i (fun _ scheduled => h.mem_lines scheduled) rfl

theorem Interleaves.own_turn {before after : List (ι × String)} {i : ι} {line : String}
    (h : Interleaves execution (before ++ (i, line) :: after)) :
    ownLines i before ++ line :: ownLines i after <+: (execution i).lines := by
  have whole := h i
  rwa [ownLines_append, ownLines_turn] at whole

/-- **When a file is run, it holds its whole script.** -/
theorem Interleaves.whole_when_run {before after : List (ι × String)} {i : ι}
    (h : Interleaves execution (before ++ (i, (execution i).script.runLine) :: after))
    (distinct : Function.Injective fun i => (execution i).id) (disk : Disk) :
    (disk.carryOutAll (before.map (·.2))).files (execution i).script.path =
      some (0xFF :: 0xFE :: Utf16.encode (execution i).command.text) := by
  have next : ownLines i before ++ [(execution i).script.runLine] <+: (execution i).lines := by
    refine List.IsPrefix.trans ⟨ownLines i after, ?_⟩ h.own_turn
    rw [List.append_assoc]
    rfl
  have sofar : Interleaves execution before := h.part (List.prefix_append _ _)
  -- alone, the execution has sent exactly the lines that fill the file
  rw [sofar.files_alone distinct i disk, (execution i).own_of_runLine next]
  exact StagedScript.carryOutAll_setUpLines (execution i).quotable disk

/-- **From the cleanup on, the file is gone.** -/
theorem Interleaves.gone_behind_cleanup {before later rest : List (ι × String)} {i : ι}
    (h : Interleaves execution
      (before ++ (i, (execution i).script.cleanupLine) :: (later ++ rest)))
    (distinct : Function.Injective fun i => (execution i).id) (disk : Disk) :
    ((disk.carryOut (execution i).script.cleanupLine).carryOutAll (later.map (·.2))).files
      (execution i).script.path = none := by
  have silent := (execution i).nothing_behind_cleanup h.own_turn
  rw [ownLines_append, List.append_eq_nil_iff] at silent
  have scheduled : ∀ entry ∈ later, entry.2 ∈ (execution entry.1).lines := fun _ hentry =>
    h.mem_lines (List.mem_append_right _ (.tail _ (List.mem_append_left _ hentry)))
  rw [WinRm.files_alone distinct i scheduled rfl, silent.1, Disk.carryOutAll_nil]
  exact StagedScript.carryOut_cleanupLine (execution i).quotable disk

/-- **Staged executions on one target do not meet.** Whatever the disk holds at the start, whenever
it is the turn of a line: the target understands it; if it runs a file, that is the file of its own
execution, which holds the byte order mark and the whole script; it leaves the files of all other
executions as they are; and if it is the cleanup, the file of its execution is gone from then on. -/
theorem staged_executions_isolated (distinct : Function.Injective fun i => (execution i).id)
    {schedule : List (ι × String)} (interleaved : Interleaves execution schedule) (disk : Disk)
    {before after : List (ι × String)} {i : ι} {line : String}
    (turn : schedule = before ++ (i, line) :: after) :
    let script := (execution i).script
    let now := disk.carryOutAll (before.map (·.2))
    ∃ effect, Effect.ofLine line = some effect ∧
      (∀ path, effect = .run path → line = script.runLine) ∧
      (line = script.runLine → effect = .run script.path ∧
        now.files script.path = some (0xFF :: 0xFE :: Utf16.encode (execution i).command.text)) ∧
      (∀ j, j ≠ i → (now.carryOut line).files (execution j).script.path =
        now.files (execution j).script.path) ∧
      (line = script.cleanupLine → effect = .remove script.path ∧
        ∀ later, later <+: after →
          ((now.carryOut line).carryOutAll (later.map (·.2))).files script.path = none) := by
  intro script now
  subst turn
  have quotable := (execution i).quotable
  have mine : line ∈ (execution i).lines :=
    interleaved.mem_lines (List.mem_append_right _ List.mem_cons_self)
  obtain ⟨effect, understood, runs, _⟩ := (execution i).effect_of_line mine
  refine ⟨effect, understood, runs, fun h => ?_, fun j other => ?_, fun h => ?_⟩
  · subst h
    rw [Effect.ofLine_runLine quotable] at understood
    exact ⟨(Option.some.inj understood).symm, interleaved.whole_when_run distinct disk⟩
  · exact carryOut_other distinct other mine now
  · subst h
    rw [Effect.ofLine_cleanupLine quotable] at understood
    refine ⟨(Option.some.inj understood).symm, fun later hlater => ?_⟩
    obtain ⟨rest, rfl⟩ := hlater
    exact interleaved.gone_behind_cleanup distinct now

end Schedule

/-- Two executions on one target, of different scripts. -/
def twoExecutions : Bool → StagedExecution
  | true => ⟨⟨.connected, some .sample, "win"⟩, .obliging, "6f1c2a34-9b0e-4d5f-8a67-1c2d3e4f5a6b",
      forced "hostname", by decide +kernel, rfl⟩
  | false => ⟨⟨.connected, some .sample, "win"⟩, .obliging, "0a9b8c7d-6e5f-4a3b-9c2d-1e0f9a8b7c6d",
      forced "whoami", by decide +kernel, rfl⟩

def alternation : List (Bool × String) :=
  let all (b : Bool) := (twoExecutions b).script.lines ++ [(twoExecutions b).script.cleanupLine]
  ((all true).zip (all false)).flatMap fun (line, line') => [(true, line), (false, line')]

/-- When the two take turns, the first script is whole by the time it is run. -/
theorem alternating_hostname_runs_whole :
    let now := Disk.carryOutAll ⟨[], fun _ => none⟩ ((alternation.take 6).map (·.2))
    now.files (twoExecutions true).script.path =
      some (0xFF :: 0xFE :: Utf16.encode "hostname") := by
  have distinct : Function.Injective fun i => (twoExecutions i).id := by
    intro a b
    cases a <;> cases b <;> decide
  have interleaved : Interleaves twoExecutions alternation := by
    unfold Interleaves
    decide +kernel
  have turn : alternation =
      alternation.take 6 ++ (true, (twoExecutions true).script.runLine) :: alternation.drop 7 := by
    decide +kernel
  obtain ⟨_, _, _, run, _⟩ :=
    staged_executions_isolated distinct interleaved ⟨[], fun _ => none⟩ turn
  exact (run rfl).2

end Hostlink.WinRm
