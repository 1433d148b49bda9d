import Hostlink.Proofs.Bytes.Surrogates
import Hostlink.Proofs.Text.Skip
import Hostlink.Proofs.WinRm.Handshake
import Hostlink.Proofs.WinRm.Isolation

/-!
# Command lines that hold together

A line goes through the command interpreter of the target before it comes to PowerShell, and what is
put into it, a piece of a script or a path, is put between quotation marks. `IsContained` is what the
line needs for the first: a length that the interpreter takes, and none of the characters that it
takes for itself. `Quotes` is what it needs for the second: there is one way to read what stands in
quotation marks behind a mark, and that is what was put there.

Both are shown of the forms of lines, and a line is one of them with its holes filled. What a form
writes itself is decided, in `forms_contained` and `Form.marks_forms`. What fills the holes is base64
and the path of a script named by a UUID, and nothing more is used of these than `IsFilling`.
-/

namespace Hostlink.WinRm

open Text

/-! ## Characters -/

/-- The characters that the command interpreter takes for itself: they join commands, redirect,
escape, or stand for variables. -/
def interpreted : List Char := ['&', '<', '>', '^', '%', '!']

/-- **A character that goes through the command interpreter as it is**: printable ASCII, so no line
break either, and none of those that it takes for itself. -/
def IsInert (c : Char) : Prop := ' ' ≤ c ∧ c ≤ '~' ∧ c ∉ interpreted

instance : DecidablePred IsInert := fun c =>
  inferInstanceAs (Decidable (' ' ≤ c ∧ c ≤ '~' ∧ c ∉ interpreted))

/-- The quotation marks, and what the marks before them end in. -/
def bounding : List Char := ['\'', '"', '(', ' ']

/-- **A character that may fill a hole of a line**: one that goes through and does not bound what is
quoted. -/
def IsFiller (c : Char) : Prop := IsInert c ∧ c ∉ bounding

instance : DecidablePred IsFiller := fun c =>
  inferInstanceAs (Decidable (IsInert c ∧ c ∉ bounding))

/-- **A text that may fill a hole of a line.** -/
structure IsFilling (text : List Char) : Prop where
  fillers : ∀ c ∈ text, IsFiller c
  short : text.length ≤ 4000

theorem isFiller_symbol : ∀ n < 64, IsFiller (Base64.symbol n) := by decide +kernel

theorem isFiller_encode (bs : Bytes) : ∀ c ∈ Base64.encode bs, IsFiller c :=
  Base64.forall_mem_encode isFiller_symbol (by decide) bs

theorem isFiller_of_isUuid {id : String} (h : isUuid id = true) : ∀ c ∈ id.toList, IsFiller c := by
  intro c among
  have strangers : (interpreted ++ bounding).all (fun d => !isHexDigit d && d != '-') = true := by
    decide
  have other : c ∉ interpreted ++ bounding := by
    intro stranger
    have outside := List.all_eq_true.mp strangers c stranger
    simp only [Bool.and_eq_true, Bool.not_eq_true', bne_iff_ne, ne_eq] at outside
    exact not_mem_of_isUuid h outside.1 outside.2 among
  rw [List.mem_append, not_or] at other
  have printable : ' ' ≤ c ∧ c ≤ '~' := by
    by_cases digit : isHexDigit c = true
    · simp only [isHexDigit, Bool.or_eq_true, Bool.and_eq_true, decide_eq_true_eq] at digit
      rcases digit with ⟨low, high⟩ | ⟨low, high⟩
      · exact ⟨Char.le_trans (by decide) low, Char.le_trans high (by decide)⟩
      · exact ⟨Char.le_trans (by decide) low, Char.le_trans high (by decide)⟩
    · by_cases hyphen : c = '-'
      · rw [hyphen]
        decide
      · exact absurd among (not_mem_of_isUuid h (eq_false_of_ne_true digit) hyphen)
  exact ⟨⟨printable.1, printable.2, other.1⟩, other.2⟩

/-- What stands around the name in a path, and what else is put into lines. -/
def literals : List String := [stagingDir ++ "\\script-", ".ps1", stagingDir, "0xFF,0xFE"]

theorem literals_fill :
    (literals.all fun text =>
      text.toList.all (decide <| IsFiller ·) && text.toList.length ≤ 100) = true := by
  decide +kernel

theorem filler_of_literal {text : String} (among : text ∈ literals) :
    (∀ c ∈ text.toList, IsFiller c) ∧ text.toList.length ≤ 100 := by
  have fills := List.all_eq_true.mp literals_fill text among
  simpa only [Bool.and_eq_true, List.all_eq_true, decide_eq_true_eq] using fills

theorem isFilling_literal {text : String} (among : text ∈ literals) : IsFilling text.toList where
  fillers := (filler_of_literal among).1
  short := Nat.le_trans (filler_of_literal among).2 (by decide)

/-- The base64 of 3000 octets fills a hole. -/
theorem isFilling_encode {bs : Bytes} (short : bs.length ≤ 3000) : IsFilling (Base64.encode bs) where
  fillers := isFiller_encode bs
  short := by
    rw [Base64.length_encode]
    omega

namespace StagedScript

variable {id text : String}

theorem isFilling_path (uuid : isUuid id = true) : IsFilling (ofScript id text).path.toList := by
  obtain ⟨front, shortFront⟩ := filler_of_literal (.head _)
  obtain ⟨back, shortBack⟩ := filler_of_literal (.tail _ (.head _))
  rw [path_toList]
  constructor
  · intro c among
    rcases List.mem_append.mp among with before | among
    · exact front c before
    · rcases List.mem_append.mp among with inside | behind
      · exact isFiller_of_isUuid uuid c inside
      · exact back c behind
  · have name : id.toList.length = 36 := eq_of_beq (Bool.and_eq_true_iff.mp uuid).1
    rw [List.length_append, List.length_append, name]
    omega

theorem isFilling_chunk {chunk : String} (among : chunk ∈ (ofScript id text).chunks) :
    IsFilling chunk.toList := by
  rw [Effect.chunks_ofScript, List.mem_map] at among
  obtain ⟨content, piece, rfl⟩ := among
  rw [String.toList_ofList]
  exact isFilling_encode (forall_mem_pieces 3000 _ content piece).2

end StagedScript

/-! ## Lines that go through -/

/-- **A line that the command interpreter takes whole and hands on as it is.** -/
structure IsContained (line : String) : Prop where
  inert : ∀ c ∈ line.toList, IsInert c
  short : line.length ≤ 8191

namespace Form

/-- What a form writes itself. -/
def letters (f : Form) : List Char := f.start ++ f.holes.flatMap fun h => h.1 :: h.2.toList

theorem mem_fillHoles {holes : List (Char × String)} {filling : List (List Char)} {c : Char}
    (h : c ∈ fillHoles holes filling) :
    c ∈ (holes.flatMap fun h => h.1 :: h.2.toList) ∨ ∃ hole ∈ filling, c ∈ hole := by
  fun_induction fillHoles holes filling with
  | case1 stop behind holes hole rest ih =>
    rw [List.flatMap_cons, List.mem_append]
    rcases List.mem_append.mp h with inside | h
    · exact .inr ⟨hole, List.mem_cons_self, inside⟩
    · rw [← List.cons_append] at h
      rcases List.mem_append.mp h with own | h
      · exact .inl (.inl own)
      · rcases ih h with own | ⟨hole', among, inside⟩
        · exact .inl (.inr own)
        · exact .inr ⟨hole', List.mem_cons_of_mem hole among, inside⟩
  | case2 => exact absurd h List.not_mem_nil

theorem length_fillHoles_le (holes : List (Char × String)) {filling : List (List Char)}
    (short : ∀ hole ∈ filling, hole.length ≤ 4000) :
    (fillHoles holes filling).length ≤
      (holes.flatMap fun h => h.1 :: h.2.toList).length + 4000 * holes.length := by
  fun_induction fillHoles holes filling with
  | case1 stop behind holes hole rest ih =>
    rw [List.forall_mem_cons] at short
    have := ih short.2
    simp only [List.flatMap_cons, List.length_append, List.length_cons]
    omega
  | case2 => exact Nat.zero_le _

end Form

/-- What the forms write themselves goes through, and leaves room for what fills them. -/
theorem forms_contained :
    (Effect.forms.all fun f => f.1.letters.all (decide <| IsInert ·) &&
      f.1.letters.length + 4000 * f.1.holes.length ≤ 8191) = true := by
  decide +kernel

theorem inert_of_form {form : Form} {meaning : List (List Char) → Option Effect}
    (known : (form, meaning) ∈ Effect.forms) :
    (∀ c ∈ form.letters, IsInert c) ∧ form.letters.length + 4000 * form.holes.length ≤ 8191 := by
  have contained := List.all_eq_true.mp forms_contained (form, meaning) known
  simpa only [Bool.and_eq_true, List.all_eq_true, decide_eq_true_eq] using contained

/-- **A form with its holes filled goes through.** -/
theorem isContained_of_fill {form : Form} {meaning : List (List Char) → Option Effect}
    (known : (form, meaning) ∈ Effect.forms) {filling : List (List Char)}
    (filled : ∀ hole ∈ filling, IsFilling hole) {line : String}
    (text : line.toList = form.fill filling) : IsContained line := by
  obtain ⟨own, few⟩ := inert_of_form known
  rw [Form.letters] at own few
  constructor
  · intro c among
    rw [text, Form.fill] at among
    rcases List.mem_append.mp among with start | among
    · exact own c (List.mem_append_left _ start)
    · rcases Form.mem_fillHoles among with behind | ⟨hole, there, inside⟩
      · exact own c (List.mem_append_right _ behind)
      · exact ((filled hole there).fillers c inside).1
  · have bound := Form.length_fillHoles_le form.holes fun hole there => (filled hole there).short
    rw [List.length_append] at few
    rw [← String.length_toList, text, Form.fill, List.length_append]
    omega

/-! ## Quotations -/

/-- **What stands in quotation marks behind a mark**: this text and no other. Somewhere the mark has
the text in quotation marks behind it, and wherever the mark has a quotation mark behind it, what
comes up to the next one is the text. -/
def Quotes (line mark : String) (quote : Char) (inner : String) : Prop :=
  ∀ text : String, (quote ∉ text.toList ∧ ∃ before after, line.toList =
    before ++ (mark.toList ++ quote :: (text.toList ++ quote :: after))) ↔ text = inner

/-- Two texts that end at the same quotation mark are one. -/
theorem eq_of_stop {stop : Char} {hole hole' rest rest' : List Char} (inside : stop ∉ hole)
    (inside' : stop ∉ hole') (same : hole ++ stop :: rest = hole' ++ stop :: rest') :
    hole = hole' := by
  have cut := Form.cut?_stop inside rest
  rw [same, Form.cut?_stop inside' rest'] at cut
  cases cut
  rfl

/-- A mark in one place has one quotation behind it. -/
theorem quotes_of_place {line mark inner : String} {quote : Char} {front back : List Char}
    (place : line.toList = front ++ ((mark.toList ++ [quote]) ++ (inner.toList ++ quote :: back)))
    (inside : quote ∉ inner.toList)
    (before : Skips (mark.toList ++ [quote]) front
      ((mark.toList ++ [quote]) ++ (inner.toList ++ quote :: back)))
    (behind : Skips (mark.toList ++ [quote])
      ((mark.toList ++ [quote]).tail ++ (inner.toList ++ quote :: back)) []) :
    Quotes line mark quote inner := by
  have inhabited : mark.toList ++ [quote] ≠ [] :=
    List.append_ne_nil_of_right_ne_nil _ (List.cons_ne_nil _ _)
  have whole (text after : List Char) : mark.toList ++ quote :: (text ++ quote :: after) =
      (mark.toList ++ [quote]) ++ (text ++ quote :: after) := by
    rw [List.append_assoc, List.singleton_append]
  intro text
  constructor
  · rintro ⟨inside', before', after', place'⟩
    rw [place, whole] at place'
    obtain ⟨_, same⟩ := place_unique inhabited before behind place'
    exact String.toList_inj.mp (eq_of_stop inside' inside same)
  · rintro rfl
    exact ⟨inside, front, back, by rw [place, whole]⟩

namespace Form

/-- Whether a text ends in a mark, and the mark begins nowhere else in it or in its own rest. -/
def leads (mark lead : List Char) : Bool :=
  let before := lead.take (lead.length - mark.length)
  lead = before ++ mark && clear mark before && clear mark mark.tail

theorem exists_of_leads {mark lead : List Char} (h : leads mark lead = true) :
    ∃ before, lead = before ++ mark ∧ clear mark before = true ∧ clear mark mark.tail = true := by
  simp only [leads, Bool.and_eq_true, decide_eq_true_eq] at h
  exact ⟨_, h.1.1, h.1.2, h.2⟩

/-- Whether a mark with a quotation mark behind it begins nowhere in what is written around holes that
hold fillers. -/
def avoids (mark : String) (quote : Char) (holes : List (Char × String)) : Bool :=
  holes.all fun h => h.1 ∉ mark.toList && clear (mark.toList ++ [quote]) (h.1 :: h.2.toList)

/-- What fills a hole is passed over, up to the end of the hole. -/
theorem skips_filling {mark : String} {quote stop : Char} {hole : List Char}
    (own : mark.toList.any (¬ IsFiller ·) = true) (filled : IsFilling hole)
    (other : stop ∉ mark.toList) (rest : List Char) :
    Skips (mark.toList ++ [quote]) hole (stop :: rest) := by
  simp only [List.any_eq_true, decide_eq_true_eq] at own
  obtain ⟨c, within, stranger⟩ := own
  refine skips_of_absent within (fun inside => stranger (filled.fillers c inside)) (fun d next => ?_) _
  obtain rfl := Option.some.inj next
  exact other

/-- **No mark begins around fillers**, if none begins in what is written around them. By induction on
the holes. -/
theorem skips_fillHoles {mark : String} {quote : Char} (own : mark.toList.any (¬ IsFiller ·) = true)
    {holes : List (Char × String)} (around : avoids mark quote holes = true)
    {filling : List (List Char)} (filled : ∀ hole ∈ filling, IsFilling hole) :
    Skips (mark.toList ++ [quote]) (fillHoles holes filling) [] := by
  fun_induction fillHoles holes filling with
  | case1 stop behind holes hole rest ih =>
    rw [List.forall_mem_cons] at filled
    simp only [avoids, List.all_cons, Bool.and_eq_true, decide_eq_true_eq] at around
    obtain ⟨⟨other, clear⟩, around⟩ := around
    rw [← List.cons_append]
    refine Skips.append (skips_filling own filled.1 other _) (Skips.append ?_ (ih around filled.2))
    exact skips_of_clear clear _
  | case2 => exact .nil []

/-- Whether a mark, with a quotation mark behind it, stands at the end of `lead` and is found nowhere
else from there on, if the holes behind hold fillers. -/
def marks (mark : String) (quote : Char) (lead : List Char) (holes : List (Char × String)) : Bool :=
  mark.toList.any (¬ IsFiller ·) && ¬ IsFiller quote && leads (mark.toList ++ [quote]) lead &&
    avoids mark quote holes

/-- **What fills a hole is quoted behind the mark before the hole**, if the mark begins nowhere before
that. -/
theorem quotes_hole {mark : String} {quote : Char} {lead : List Char} {behind : String}
    {holes : List (Char × String)} (h : marks mark quote lead ((quote, behind) :: holes) = true)
    {front : List Char} (before : ∀ rest, Skips (mark.toList ++ [quote]) front (lead ++ rest))
    {inner : String} {filling : List (List Char)}
    (filled : ∀ hole ∈ inner.toList :: filling, IsFilling hole) {line : String}
    (place : line.toList =
      front ++ (lead ++ fillHoles ((quote, behind) :: holes) (inner.toList :: filling))) :
    Quotes line mark quote inner := by
  simp only [marks, Bool.and_eq_true] at h
  obtain ⟨⟨⟨own, other⟩, leading⟩, around⟩ := h
  obtain ⟨before', rfl, clear, tail⟩ := exists_of_leads leading
  have inside : quote ∉ inner.toList := fun among =>
    of_decide_eq_true other ((filled _ List.mem_cons_self).fillers quote among)
  have rest := skips_fillHoles own around filled
  rw [fillHoles] at place rest
  rw [List.append_assoc before', ← List.append_assoc front] at place
  refine quotes_of_place place inside ?_ ?_
  · refine Skips.append ?_ (skips_of_clear clear _)
    rw [← List.append_assoc]
    exact before _
  · exact Skips.append (skips_of_clear tail _) rest

/-- The marks of the forms of staging. The second hole of a line that appends has the first in front
of it. -/
theorem marks_forms :
    marks "FromBase64String(" '\'' append.start append.holes = true ∧
    clear ("Open(".toList ++ ['\'']) append.start = true ∧
    "Open(".toList.any (¬ IsFiller ·) = true ∧ '\'' ∉ "Open(".toList ∧
    marks "Open(" '\'' ('\'' :: ");$f=[IO.File]::Open('".toList) append.holes.tail = true ∧
    marks "WriteAllBytes(" '\'' write.start write.holes = true ∧
    marks "-File " '"' run.start run.holes = true ∧
    marks "-LiteralPath " '\'' remove.start remove.holes = true := by
  decide +kernel

end Form

/-! ## The lines of a script -/

/-- **A staged script whose lines read back**: its pieces from the lines that append them, and its
path from these and from those that create, run and delete the file. -/
structure StagedScript.IsQuoted (s : StagedScript) : Prop where
  piece : ∀ chunk ∈ s.chunks, Quotes (s.appendLine chunk) "FromBase64String(" '\'' chunk
  appended : ∀ chunk ∈ s.chunks, Quotes (s.appendLine chunk) "Open(" '\'' s.path
  created : Quotes s.createLine "WriteAllBytes(" '\'' s.path
  ran : Quotes s.runLine "-File " '"' s.path
  removed : Quotes s.cleanupLine "-LiteralPath " '\'' s.path

namespace StagedScript

variable {id : String}

theorem isQuoted_ofScript (uuid : isUuid id = true) (text : String) : (ofScript id text).IsQuoted := by
  obtain ⟨piece, clear, own, other, appended, created, ran, removed⟩ := Form.marks_forms
  have path : ∀ hole ∈ [(ofScript id text).path.toList], IsFilling hole :=
    List.forall_mem_singleton.mpr (isFilling_path uuid)
  constructor
  case piece =>
    intro chunk among
    refine Form.quotes_hole piece (fun rest => .nil _) ?_ (Effect.appendLine_eq_fill chunk)
    exact List.forall_mem_cons.mpr ⟨isFilling_chunk among, path⟩
  case appended =>
    intro chunk among
    have place : ((ofScript id text).appendLine chunk).toList =
        (Form.append.start ++ chunk.toList) ++ ('\'' :: ");$f=[IO.File]::Open('".toList ++
          Form.fillHoles Form.append.holes.tail [(ofScript id text).path.toList]) := by
      rw [Effect.appendLine_eq_fill, Form.fill, List.append_assoc]
      rfl
    refine Form.quotes_hole appended (fun rest => ?_) path place
    refine Skips.append (skips_of_clear clear _) ?_
    exact Form.skips_filling own (isFilling_chunk among) other _
  case created =>
    refine Form.quotes_hole created (fun rest => .nil _) ?_ Effect.createLine_eq_fill
    rw [List.forall_mem_cons, List.forall_mem_singleton]
    exact ⟨isFilling_path uuid, isFilling_literal (.tail _ (.tail _ (.tail _ (.head _))))⟩
  case ran => exact Form.quotes_hole ran (fun rest => .nil _) path Effect.runLine_eq_fill
  case removed => exact Form.quotes_hole removed (fun rest => .nil _) path Effect.cleanupLine_eq_fill

/-- Every line of a script goes through: it has one of the forms. -/
theorem isContained_lines (uuid : isUuid id = true) (text : String) :
    ∀ line ∈ (Plan.staged (ofScript id text)).lines, IsContained line := by
  have path : ∀ hole ∈ [(ofScript id text).path.toList], IsFilling hole :=
    List.forall_mem_singleton.mpr (isFilling_path uuid)
  intro line among
  simp only [Plan.lines, lines, setUpLines, appendLines, List.mem_append, List.mem_cons,
    List.mem_map, List.not_mem_nil, or_false] at among
  rcases among with ((rfl | rfl | ⟨chunk, piece, rfl⟩) | rfl) | rfl
  · refine isContained_of_fill (.head _) ?_ Effect.ensureDirLine_eq_fill
    exact List.forall_mem_singleton.mpr (isFilling_literal (.tail _ (.tail _ (.head _))))
  · refine isContained_of_fill (.tail _ (.head _)) ?_ Effect.createLine_eq_fill
    rw [List.forall_mem_cons, List.forall_mem_singleton]
    exact ⟨isFilling_path uuid, isFilling_literal (.tail _ (.tail _ (.tail _ (.head _))))⟩
  · refine isContained_of_fill (.tail _ (.tail _ (.head _))) ?_ (Effect.appendLine_eq_fill chunk)
    exact List.forall_mem_cons.mpr ⟨isFilling_chunk piece, path⟩
  · exact isContained_of_fill (.tail _ (.tail _ (.tail _ (.head _)))) path Effect.runLine_eq_fill
  · exact isContained_of_fill (.tail _ (.tail _ (.tail _ (.tail _ (.head _))))) path
      Effect.cleanupLine_eq_fill

end StagedScript

/-! ## The line of a short text -/

/-- How a script is passed in one line. -/
theorem call_inert : "powershell -encodedcommand ".toList.all (decide <| IsInert ·) = true ∧
    "powershell -encodedcommand ".toList.length = 27 := by
  decide +kernel

theorem encodeScript_toList (text : String) :
    (encodeScript text).toList = Base64.encode (Utf16.encode text) := String.toList_ofList

/-- The payload of a line is bounded by the limit of texts in one line: there are at most two octets
in UTF-16 for each in UTF-8, and ASCII has just two. -/
theorem length_single {text : String} (short : text.utf8ByteSize ≤ 2000) :
    ("powershell -encodedcommand " ++ encodeScript text).toList.length ≤ 5363 := by
  have bound := Utf16.length_encode_le text
  rw [String.toList_append, List.length_append, call_inert.2, encodeScript_toList, Base64.length_encode]
  omega

theorem isContained_single {text : String} (short : text.utf8ByteSize ≤ 2000) :
    IsContained ("powershell -encodedcommand " ++ encodeScript text) where
  inert c among := by
    rw [String.toList_append, encodeScript_toList] at among
    rcases List.mem_append.mp among with call | payload
    · exact of_decide_eq_true (List.all_eq_true.mp call_inert.1 c call)
    · exact (isFiller_encode _ c payload).1
  short := by
    have bound := length_single short
    rw [String.length_toList] at bound
    omega

/-! ## Plans -/

theorem Plan.ofCommand_cases (id : String) (c : Command) :
    (c.text.utf8ByteSize ≤ 2000 ∧
      Plan.ofCommand id c = .single ("powershell -encodedcommand " ++ encodeScript c.text)) ∨
    Plan.ofCommand id c = .staged (.ofScript id c.text) := by
  unfold Plan.ofCommand
  split
  next fits => exact .inl ⟨fits.1, rfl⟩
  next => exact .inr rfl

/-- **The lines of a plan hold together**, whatever the text of the command, with a UUID for the name of
its file. Each of them goes through the command interpreter as it is, the one line of a short text with
at most 5363 characters, and what is quoted in the lines of a staged script is read from them in one
way. No run of the command, on any connection and with any endpoint, asks for another line. -/
theorem lines_hold_together {id : String} (uuid : isUuid id = true) (c : Command) :
    (∀ line ∈ (Plan.ofCommand id c).lines, IsContained line) ∧
    (∀ line, Plan.ofCommand id c = .single line → line.length ≤ 5363) ∧
    (∀ script, Plan.ofCommand id c = .staged script → script.IsQuoted) ∧
    ∀ (connection : Connection) (w : Wire),
      ∀ line ∈ commandLines ((connection.run id c w).2.exchanges.drop w.exchanges.length),
        line ∈ (Plan.ofCommand id c).lines := by
  have asked (connection : Connection) (w : Wire) :
      ∀ line ∈ commandLines ((connection.run id c w).2.exchanges.drop w.exchanges.length),
        line ∈ (Plan.ofCommand id c).lines := by
    intro line among
    obtain ⟨answer, sent, w', h, lines⟩ := connection.run_lines id c w
    rw [h.run, h.exchanges, List.drop_left] at among
    exact lines.subset among
  rcases Plan.ofCommand_cases id c with ⟨short, plan⟩ | plan
  · refine ⟨?_, fun line same => ?_, fun script same => ?_, asked⟩
    · rw [plan]
      exact List.forall_mem_singleton.mpr (isContained_single short)
    · obtain rfl := Plan.single.inj (plan.symm.trans same)
      rw [← String.length_toList]
      exact length_single short
    · cases plan.symm.trans same
  · refine ⟨?_, fun line same => ?_, fun script same => ?_, asked⟩
    · rw [plan]
      exact StagedScript.isContained_lines uuid c.text
    · cases plan.symm.trans same
    · obtain rfl := Plan.staged.inj (plan.symm.trans same)
      exact StagedScript.isQuoted_ofScript uuid c.text

/-- A text that would end its quotation, and call another program, if it stood in a line as it is. -/
def hostile : Command := forced "'); del %TEMP%\\* & \"calc\" > nul\r\n"

theorem lines_hold_together_hostile :
    isUuid "6f1c2a34-9b0e-4d5f-8a67-1c2d3e4f5a6b" = true ∧
    (∀ line ∈ (Plan.ofCommand "6f1c2a34-9b0e-4d5f-8a67-1c2d3e4f5a6b" hostile).lines,
      IsContained line) ∧
    ∃ script, Plan.ofCommand "6f1c2a34-9b0e-4d5f-8a67-1c2d3e4f5a6b" hostile = .staged script ∧
      script.chunks ≠ [] ∧ script.IsQuoted := by
  have uuid : isUuid "6f1c2a34-9b0e-4d5f-8a67-1c2d3e4f5a6b" = true := by decide +kernel
  obtain ⟨contained, _, quoted, _⟩ := lines_hold_together uuid hostile
  refine ⟨uuid, contained, _, rfl, fun none => ?_, quoted _ rfl⟩
  rw [Effect.chunks_ofScript, List.map_eq_nil_iff, pieces_eq_nil_iff, Utf16.encode_eq_nil_iff] at none
  exact absurd none (by decide)

end Hostlink.WinRm
