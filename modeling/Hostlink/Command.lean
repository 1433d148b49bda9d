import Hostlink.Fault
import Hostlink.Value.Decode

/-!
# Commands and their outcomes

A command is a text to run, the return code that counts as success, and hints to the transport.
`Command.check` holds an outcome against the expected return code: a mismatch is always a fault
that speaks of the caller's command, and never a partial result.
-/

namespace Hostlink

/-- What a command wrote and returned. -/
structure Outcome where
  stdout : String
  stderr : String
  exitCode : Int32
  deriving DecidableEq, Repr, Inhabited

namespace Outcome

/-- Both streams as one text, the standard output first. -/
def combined (o : Outcome) : String :=
  if o.stderr.isEmpty then o.stdout
  else if o.stdout.isEmpty then o.stderr
  else s!"{o.stdout}\n{o.stderr}"

/-- The written form of an outcome. -/
def encode (o : Outcome) : Value :=
  .record [("stdout", .text o.stdout), ("stderr", .text o.stderr), ("exit_code", .int o.exitCode.toInt)]

end Outcome

/-- A command to run on a target. -/
structure Command where
  text : String
  /-- The return code that counts as success. -/
  expectedCode : Int32 := 0
  /-- Hints to the transport, each name once. -/
  hints : List (String × Value) := []
  deriving Repr, Inhabited

namespace Command

/-- The hint that asks for staging whatever the length. -/
def forceSplit : String := "force_split"

/-- A command with one more hint, which replaces an earlier one of its name. -/
def withHint (c : Command) (name : String) (v : Value) : Command :=
  { c with hints := c.hints.filter (·.1 != name) ++ [(name, v)] }

/-- Whether a command is to be staged whatever its length: only the value true asks for it. -/
def isForced (c : Command) : Bool :=
  match c.hints.lookup forceSplit with
  | some (.bool true) => true
  | _ => false

/-- Holds an outcome against the expected return code. -/
def check (c : Command) (o : Outcome) : Attempt Outcome :=
  if o.exitCode = c.expectedCode then .ok o
  else .error (.commandFailed c.text o.exitCode o.stderr)

open Value

/-- The written form of a command. -/
def encode (c : Command) : Value :=
  .record [
    ("command", .text c.text), ("expected_rc", .int c.expectedCode.toInt), ("extra", .record c.hints)]

/-- Reads hints. -/
def decodeHints : Reader (List (String × Value))
  | _, .record entries => .ok entries
  | d, v => refuse "a map" d v

/-- The fields of a command. -/
def layout : Layout := ⟨"Command", ["command", "expected_rc", "extra"]⟩

/-- Reads one field of a command. -/
def checkField (d : Dialect) (name : String) (v : Value) : Except Value.Fault Unit :=
  match name with
  | "command" => discard (readText "a string" d v)
  | "expected_rc" => discard (readInt32 d v)
  | "extra" => discard (decodeHints d v)
  | _ => .ok ()

/-- Reads a command. -/
def decode : Reader Command := fun d v => do
  let fs ← layout.view checkField d v
  let text ← fs.read "command" (readText "a string") none
  let expectedCode ← fs.read "expected_rc" readInt32 (some 0)
  let hints ← fs.read "extra" decodeHints (some [])
  layout.refuseSurplus d v
  return { text, expectedCode, hints }

end Command

end Hostlink
