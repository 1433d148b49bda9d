import Hostlink.Proofs.Bytes.Base64
import Hostlink.Text.Cut
import Hostlink.WinRm.Script

/-!
# What a staging line does on the target

A line of a staged script is text, and the target does what the text says. `Effect.ofLine` reads it
the way the interpreter does: a quoted text ends at the next quotation mark, whatever stands inside
it, and what stands behind must be what the form of the line asks for. `Disk.carryOut` carries the
effect out.

The laws at the end say what the lines of a script are read as: `ofLine_createLine` and its
siblings. They hold for every path that stays inside its quotation marks, which is why such paths
have a name, `IsQuotable`.
-/

namespace Hostlink.WinRm

/-! ## Forms of lines -/

/-- A form of command lines: how it opens behind the call of the interpreter, and for each hole the
character that ends it and the text that follows. -/
structure Form where
  opening : String
  holes : List (Char × String)

namespace Form

/-- What stands in the holes of a text, the first of which is at its start. -/
def readHoles? : List (Char × String) → List Char → Option (List (List Char))
  | [], [] => some []
  | [], _ :: _ => none
  | (stop, behind) :: holes, text =>
    match Text.cut? [stop] text with
    | none => none
    | some (hole, rest) =>
      if behind.toList.isPrefixOf rest then
        (readHoles? holes (rest.drop behind.toList.length)).map (hole :: ·)
      else none

def start (f : Form) : List Char := powershell.toList ++ f.opening.toList

/-- What stands in the holes of a line, if it has the form. -/
def read? (f : Form) (line : List Char) : Option (List (List Char)) :=
  if f.start.isPrefixOf line then readHoles? f.holes (line.drop f.start.length) else none

def fillHoles : List (Char × String) → List (List Char) → List Char
  | (stop, behind) :: holes, hole :: rest =>
    hole ++ stop :: (behind.toList ++ fillHoles holes rest)
  | _, _ => []

/-- The line of a form whose holes are filled. -/
def fill (f : Form) (filling : List (List Char)) : List Char :=
  f.start ++ fillHoles f.holes filling

/-- **Texts that fit into holes**: one for each, none of which contains what ends its hole. -/
def Fit : List (Char × String) → List (List Char) → Prop
  | [], [] => True
  | (stop, _) :: holes, hole :: rest => stop ∉ hole ∧ Fit holes rest
  | _, _ => False

/-- A hole ends where its character stands first. -/
theorem cut?_stop {stop : Char} {hole : List Char} (inside : stop ∉ hole) (rest : List Char) :
    Text.cut? [stop] (hole ++ stop :: rest) = some (hole, rest) := by
  suffices h : ∀ before, Text.cutFrom? [stop] before (hole ++ stop :: rest) =
      some (before.reverse ++ hole, rest) from h []
  intro before
  induction hole generalizing before with
  | nil => simp [Text.cutFrom?]
  | cons c hole ih =>
    rw [List.mem_cons, not_or] at inside
    have other : [stop].isPrefixOf (c :: (hole ++ stop :: rest)) = false :=
      Bool.eq_false_iff.mpr fun h =>
        inside.1 (List.cons_prefix_cons.mp (List.isPrefixOf_iff_prefix.mp h)).1
    simp only [List.cons_append, Text.cutFrom?, other, Bool.false_eq_true, if_false,
      ih inside.2, List.reverse_cons, List.append_assoc, List.nil_append]

theorem isPrefixOf_append (text rest : List Char) : text.isPrefixOf (text ++ rest) = true :=
  List.isPrefixOf_iff_prefix.mpr (List.prefix_append text rest)

theorem readHoles?_fillHoles (holes : List (Char × String)) (filling : List (List Char))
    (fit : Fit holes filling) : readHoles? holes (fillHoles holes filling) = some filling := by
  induction holes generalizing filling with
  | nil =>
    cases filling with
    | nil => rfl
    | cons => cases fit
  | cons h holes ih =>
    obtain ⟨stop, behind⟩ := h
    cases filling with
    | nil => cases fit
    | cons hole rest =>
      simp only [fillHoles, readHoles?, cut?_stop fit.1, isPrefixOf_append, if_true,
        List.drop_left, ih rest fit.2, Option.map_some]

/-- **A line of a form is read back.** -/
theorem read?_fill (f : Form) {filling : List (List Char)} (fit : Fit f.holes filling) :
    f.read? (f.fill filling) = some filling := by
  simp only [read?, fill, isPrefixOf_append, if_true, List.drop_left,
    readHoles?_fillHoles f.holes filling fit]

/-- Two forms that open differently: neither opening begins with the other. -/
def Apart (f g : Form) : Prop :=
  ¬ f.opening.toList <+: g.opening.toList ∧ ¬ g.opening.toList <+: f.opening.toList

instance (f g : Form) : Decidable (Apart f g) := inferInstanceAs (Decidable (_ ∧ _))

/-- A line of one form does not start like a form that opens differently. -/
theorem not_start_of_apart {f g : Form} (h : f.Apart g) (filling : List (List Char)) :
    ¬ f.start <+: g.fill filling := by
  intro one
  have other := List.prefix_append g.start (fillHoles g.holes filling)
  -- of two starts of one line, the shorter is a start of the longer
  rcases List.prefix_or_prefix_of_prefix one other with h' | h'
  · exact h.1 ((List.prefix_append_right_inj _).mp h')
  · exact h.2 ((List.prefix_append_right_inj _).mp h')

/-- A line of one form is none of a form that opens differently. -/
theorem read?_of_apart {f g : Form} (h : f.Apart g) (filling : List (List Char)) :
    f.read? (g.fill filling) = none := by
  unfold read?
  split
  next opens => exact absurd (List.isPrefixOf_iff_prefix.mp opens) (not_start_of_apart h filling)
  next => rfl

theorem fill_ne_of_apart {f g : Form} (h : f.Apart g) (filling filling' : List (List Char)) :
    f.fill filling ≠ g.fill filling' := by
  intro same
  exact not_start_of_apart h filling' (same ▸ List.prefix_append _ _)

end Form

/-! ## The forms of staging -/

def Form.ensureDirectory : Form where
  opening := " -Command \"New-Item -ItemType Directory -Force -Path '"
  holes := [('\'', " | Out-Null\"")]

def Form.write : Form where
  opening := " -Command \"[IO.File]::WriteAllBytes('"
  holes := [('\'', ", [byte[]]("), (')', ")\"")]

def Form.append : Form where
  opening := " -Command \"$b=[Convert]::FromBase64String('"
  holes := [('\'', ");$f=[IO.File]::Open('"),
    ('\'', ",'Append');$f.Write($b,0,$b.Length);$f.Close()\"")]

def Form.run : Form where
  opening := " -ExecutionPolicy Bypass -File \""
  holes := [('"', "")]

def Form.remove : Form where
  opening := " -Command \"Remove-Item -Force -LiteralPath '"
  holes := [('\'', "\"")]

/-- What a line does on the target. -/
inductive Effect where
  /-- The directory is there afterwards. -/
  | ensureDirectory (path : String)
  /-- The file has this content afterwards. -/
  | write (path : String) (content : Bytes)
  /-- The file has this content behind what it had. -/
  | append (path : String) (content : Bytes)
  /-- The content of the file is run as a script. -/
  | run (path : String)
  /-- The file is gone afterwards. -/
  | remove (path : String)
  deriving DecidableEq, Repr

namespace Effect

def hexDigit? (c : Char) : Option Nat :=
  if '0' ≤ c ∧ c ≤ '9' then some (c.toNat - '0'.toNat)
  else if 'A' ≤ c ∧ c ≤ 'F' then some (c.toNat - 'A'.toNat + 10)
  else if 'a' ≤ c ∧ c ≤ 'f' then some (c.toNat - 'a'.toNat + 10)
  else none

/-- The octets of a list such as `0xFF,0xFE`. -/
def octets? : List Char → Option Bytes
  | '0' :: 'x' :: high :: low :: rest =>
    match hexDigit? high, hexDigit? low, rest with
    | some h, some l, [] => some [UInt8.ofNat (16 * h + l)]
    | some h, some l, ',' :: rest => (octets? rest).map (UInt8.ofNat (16 * h + l) :: ·)
    | _, _, _ => none
  | _ => none

def base64? (text : List Char) : Option Bytes :=
  match Base64.decode (Utf8.encode (String.ofList text)) with
  | .ok bytes => some bytes
  | .error _ => none

/-- The forms that are understood, and what a line of each does for what stands in its holes. -/
def forms : List (Form × (List (List Char) → Option Effect)) :=
  [(.ensureDirectory, fun
      | [path] => some (.ensureDirectory (.ofList path))
      | _ => none),
    (.write, fun
      | [path, octets] => (octets? octets).map (.write (.ofList path))
      | _ => none),
    (.append, fun
      | [text, path] => (base64? text).map (.append (.ofList path))
      | _ => none),
    (.run, fun
      | [path] => some (.run (.ofList path))
      | _ => none),
    (.remove, fun
      | [path] => some (.remove (.ofList path))
      | _ => none)]

/-- **The effect of a line, read off its text.** -/
def ofLine (line : String) : Option Effect :=
  forms.findSome? fun (form, meaning) => (form.read? line.toList).bind meaning

/-- No two forms open alike. -/
theorem forms_apart : forms.Pairwise fun f g => f.1.Apart g.1 := by
  decide +kernel

/-- A line of a form does what the form says: no form before it takes the line. -/
theorem ofLine_of_form (form : Form) {meaning : List (List Char) → Option Effect}
    (known : (form, meaning) ∈ forms) (filling : List (List Char)) {line : String}
    (text : line.toList = form.fill filling) (fit : Form.Fit form.holes filling) {effect : Effect}
    (h : meaning filling = some effect) : ofLine line = some effect := by
  obtain ⟨before, after, split⟩ := List.append_of_mem known
  have apart := forms_apart
  rw [split, List.pairwise_append] at apart
  unfold ofLine
  rw [List.findSome?_eq_some_iff]
  refine ⟨before, _, after, split, ?_, fun f hf => ?_⟩
  · simp only [text, form.read?_fill fit, Option.bind_some, h]
  · have other := apart.2.2 f hf _ List.mem_cons_self
    simp only [text, Form.read?_of_apart other, Option.bind_none]

/-! ## The lines of a script -/

/-- **A path that stays inside quotation marks** of either kind. -/
def IsQuotable (path : String) : Prop := '\'' ∉ path.toList ∧ '"' ∉ path.toList

theorem ensureDirLine_eq_fill :
    StagedScript.ensureDirLine.toList = Form.ensureDirectory.fill [stagingDir.toList] := by
  have behind : "' | Out-Null\"".toList = '\'' :: " | Out-Null\"".toList := by decide +kernel
  simp only [StagedScript.ensureDirLine, Form.fill, Form.fillHoles, Form.start,
    Form.ensureDirectory, String.toList_append, behind, List.append_nil, List.append_assoc]

/-- The first line ensures the directory of staged scripts. -/
theorem ofLine_ensureDirLine :
    ofLine StagedScript.ensureDirLine = some (.ensureDirectory stagingDir) := by
  have inside : '\'' ∉ stagingDir.toList := by decide +kernel
  refine ofLine_of_form .ensureDirectory List.mem_cons_self [stagingDir.toList]
    ensureDirLine_eq_fill ⟨inside, trivial⟩ ?_
  simp only [String.ofList_toList]

variable {script : StagedScript}

theorem createLine_eq_fill :
    script.createLine.toList = Form.write.fill [script.path.toList, "0xFF,0xFE".toList] := by
  have behind : "', [byte[]](0xFF,0xFE))\"".toList =
      '\'' :: (", [byte[]](".toList ++ ("0xFF,0xFE".toList ++ ')' :: ")\"".toList)) := by
    decide +kernel
  simp only [StagedScript.createLine, Form.fill, Form.fillHoles, Form.start, Form.write,
    String.toList_append, behind, List.append_nil, List.append_assoc]

/-- The second line makes the file hold the byte order mark, and nothing else. -/
theorem ofLine_createLine (quotable : IsQuotable script.path) :
    ofLine script.createLine = some (.write script.path [0xFF, 0xFE]) := by
  have octets : octets? "0xFF,0xFE".toList = some [0xFF, 0xFE] := by decide +kernel
  have inside : ')' ∉ "0xFF,0xFE".toList := by decide +kernel
  refine ofLine_of_form .write (.tail _ List.mem_cons_self)
    [script.path.toList, "0xFF,0xFE".toList] createLine_eq_fill ⟨quotable.1, inside, trivial⟩ ?_
  simp only [octets, Option.map_some, String.ofList_toList]

theorem appendLine_eq_fill (chunk : String) :
    (script.appendLine chunk).toList = Form.append.fill [chunk.toList, script.path.toList] := by
  have between : "');$f=[IO.File]::Open('".toList = '\'' :: ");$f=[IO.File]::Open('".toList := by
    decide +kernel
  have behind : "','Append');$f.Write($b,0,$b.Length);$f.Close()\"".toList =
      '\'' :: ",'Append');$f.Write($b,0,$b.Length);$f.Close()\"".toList := by decide +kernel
  simp only [StagedScript.appendLine, Form.fill, Form.fillHoles, Form.start, Form.append,
    String.toList_append, between, behind, List.append_nil, List.append_assoc, List.cons_append]

/-- A line that appends a piece appends what the piece stands for. -/
theorem ofLine_appendLine (quotable : IsQuotable script.path) (content : Bytes) :
    ofLine (script.appendLine (.ofList (Base64.encode content))) =
      some (.append script.path content) := by
  have decoded : base64? (Base64.encode content) = some content := by
    simp only [base64?, Base64.decode_encode]
  have filled : (script.appendLine _).toList = _ := appendLine_eq_fill (.ofList (Base64.encode content))
  rw [String.toList_ofList] at filled
  refine ofLine_of_form .append (.tail _ (.tail _ List.mem_cons_self))
    [Base64.encode content, script.path.toList] filled
    ⟨Base64.quote_not_mem_encode content, quotable.1, trivial⟩ ?_
  simp only [decoded, Option.map_some, String.ofList_toList]

theorem runLine_eq_fill : script.runLine.toList = Form.run.fill [script.path.toList] := by
  have behind : "\"".toList = '"' :: "".toList := by decide +kernel
  simp only [StagedScript.runLine, Form.fill, Form.fillHoles, Form.start, Form.run,
    String.toList_append, behind, List.append_nil, List.append_assoc]

theorem ofLine_runLine (quotable : IsQuotable script.path) :
    ofLine script.runLine = some (.run script.path) := by
  refine ofLine_of_form .run (.tail _ (.tail _ (.tail _ List.mem_cons_self)))
    [script.path.toList] runLine_eq_fill ⟨quotable.2, trivial⟩ ?_
  simp only [String.ofList_toList]

theorem cleanupLine_eq_fill :
    script.cleanupLine.toList = Form.remove.fill [script.path.toList] := by
  have behind : "'\"".toList = '\'' :: "\"".toList := by decide +kernel
  simp only [StagedScript.cleanupLine, Form.fill, Form.fillHoles, Form.start, Form.remove,
    String.toList_append, behind, List.append_nil, List.append_assoc]

theorem ofLine_cleanupLine (quotable : IsQuotable script.path) :
    ofLine script.cleanupLine = some (.remove script.path) := by
  refine ofLine_of_form .remove (.tail _ (.tail _ (.tail _ (.tail _ List.mem_cons_self))))
    [script.path.toList] cleanupLine_eq_fill ⟨quotable.1, trivial⟩ ?_
  simp only [String.ofList_toList]

/-- A path that ends its own quotation is not understood. -/
example : ofLine (StagedScript.cleanupLine ⟨"C:\\a'b.ps1", []⟩) = none := by decide +kernel

/-- The pieces of a script's text, by the octets that each of them stands for. -/
theorem chunks_ofScript (id text : String) :
    (StagedScript.ofScript id text).chunks =
      (pieces 3000 (Utf16.encode text)).map fun content => .ofList (Base64.encode content) := by
  show (pieces (4 * 1000) (String.ofList _).toList).map String.ofList = _
  rw [String.toList_ofList, Base64.pieces_encode 1000 (by decide), List.map_map]
  rfl

/-- The lines that append the pieces of a script's text, by the octets that each piece stands
for. -/
theorem appendLines_ofScript (id text : String) :
    (StagedScript.ofScript id text).appendLines =
      (pieces 3000 (Utf16.encode text)).map fun content =>
        (StagedScript.ofScript id text).appendLine (.ofList (Base64.encode content)) := by
  rw [StagedScript.appendLines, chunks_ofScript, List.map_map]
  rfl

end Effect

/-! ## The disk of a target -/

/-- What staging changes on a target. -/
structure Disk where
  /-- The directories that are there. -/
  directories : List String
  /-- The content of a file, if it is there. -/
  files : String → Option Bytes

namespace Disk

def put (d : Disk) (path : String) (content : Option Bytes) : Disk :=
  { d with files := fun p => if p = path then content else d.files p }

theorem put_same (d : Disk) (path : String) (content : Option Bytes) :
    (d.put path content).files path = content := if_pos rfl

theorem put_other (d : Disk) {path p : String} (content : Option Bytes) (h : p ≠ path) :
    (d.put path content).files p = d.files p := if_neg h

/-- The disk after an effect. -/
def apply (d : Disk) : Effect → Disk
  | .ensureDirectory path =>
    if path ∈ d.directories then d else { d with directories := path :: d.directories }
  | .write path content => d.put path (some content)
  | .append path content => d.put path (some ((d.files path).getD [] ++ content))
  | .run _ => d
  | .remove path => d.put path none

/-- The disk after a line; a line that is not understood changes nothing. -/
def carryOut (d : Disk) (line : String) : Disk :=
  match Effect.ofLine line with
  | some effect => d.apply effect
  | none => d

theorem carryOut_of_effect {line : String} {effect : Effect} (h : Effect.ofLine line = some effect)
    (d : Disk) : d.carryOut line = d.apply effect := by
  unfold carryOut
  rw [h]

/-- The disk after lines one after another. -/
def carryOutAll (d : Disk) (lines : List String) : Disk := lines.foldl carryOut d

theorem carryOutAll_nil (d : Disk) : d.carryOutAll [] = d := rfl

theorem carryOutAll_cons (d : Disk) (line : String) (lines : List String) :
    d.carryOutAll (line :: lines) = (d.carryOut line).carryOutAll lines := by
  rw [carryOutAll, carryOutAll, List.foldl_cons]

end Disk

/-- The file that an effect may change. -/
def Effect.changed? : Effect → Option String
  | write path _ | append path _ | remove path => some path
  | ensureDirectory _ | run _ => none

namespace Disk

/-- **An effect changes one file at most.** -/
theorem apply_other (d : Disk) {effect : Effect} {p : String} (h : effect.changed? ≠ some p) :
    (d.apply effect).files p = d.files p := by
  have ne {path : String} (h : some path ≠ some p) : p ≠ path := fun same => h (same ▸ rfl)
  cases effect with
  | ensureDirectory path =>
    simp only [apply]
    split <;> rfl
  | write path content => exact d.put_other _ (ne h)
  | append path content => exact d.put_other _ (ne h)
  | run path => rfl
  | remove path => exact d.put_other _ (ne h)

/-- **What an effect makes of a file depends on that file only.** -/
theorem apply_congr {d d' : Disk} {p : String} (h : d.files p = d'.files p) (effect : Effect) :
    (d.apply effect).files p = (d'.apply effect).files p := by
  by_cases other : effect.changed? = some p
  · cases effect with
    | ensureDirectory path => cases other
    | write path content =>
      cases other
      simp only [apply, put_same]
    | append path content =>
      cases other
      simp only [apply, put_same, h]
    | run path => cases other
    | remove path =>
      cases other
      simp only [apply, put_same]
  · rw [d.apply_other other, d'.apply_other other, h]

theorem carryOut_congr {d d' : Disk} {p : String} (h : d.files p = d'.files p) (line : String) :
    (d.carryOut line).files p = (d'.carryOut line).files p := by
  unfold carryOut
  cases Effect.ofLine line with
  | none => exact h
  | some effect => exact apply_congr h effect

end Disk

end Hostlink.WinRm
