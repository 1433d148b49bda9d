/-!
# Troubles

What a failed run tells: what was being done, and under it everything that lies behind it, the
nearest first. A single cause is indented; several are numbered. Further lines of a wording stand
under its first one.
-/

namespace Hostlink.Cli

/-- What a failed run tells. -/
structure Trouble where
  message : String
  causes : List String := []
  deriving DecidableEq, Repr

namespace Trouble

/-- A text whose first line stands after `lead` and whose other lines stand after `margin`. -/
def hang (lead margin text : String) : String := lead ++ text.replace "\n" ("\n" ++ margin)

/-- The lead of a numbered cause. -/
def numbered (n : Nat) : String :=
  let digits := toString n
  String.ofList (List.replicate (5 - digits.length) ' ') ++ digits ++ ": "

/-- The causes, each starting a line of its own. -/
def listed : List String → List String
  | [cause] => [hang "    " "    " cause]
  | causes => causes.mapIdx fun n cause => hang (numbered n) "       " cause

/-- The whole report. -/
def render (t : Trouble) : String :=
  let causes := (listed t.causes).map ("\n" ++ ·)
  let behind := if causes.isEmpty then "" else "\n\nCaused by:" ++ String.join causes
  s!"Error: {t.message}{behind}\n"

end Trouble

end Hostlink.Cli
