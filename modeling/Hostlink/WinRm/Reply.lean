import Hostlink.Bytes.Base64
import Hostlink.Bytes.Utf8
import Hostlink.Fault
import Hostlink.Text.Blank
import Hostlink.Text.Cut
import Hostlink.Text.Integer
import Hostlink.Text.Quoted

/-!
# Replies of a remote shell

Replies are read by looking for the few elements that matter, wherever they stand in the text.
Every search cuts the text at a mark and goes on with what comes after, so reading ends on any text
and never looks at the same opening tag twice.
-/

namespace Hostlink.WinRm

open Text

/-- The text inside the first element whose tag starts with `tag`: from the end of its opening tag
to the next closing tag of that name. -/
def elementText? (tag : String) (text : List Char) : Option (List Char) := do
  let (_, rest) ← cut? ('<' :: tag.toList) text
  let (_, rest) ← cut? ['>'] rest
  let (content, _) ← cut? (['<', '/'] ++ tag.toList ++ ['>']) rest
  return content

/-- The mark before an identifier of a shell in a selector. -/
def shellMark : List Char := "Name=\"ShellId\">".toList

/-- The shell's identifier in a selector. -/
def selectedShell? (text : List Char) : Option (List Char) := do
  let (_, rest) ← cut? shellMark text
  let (content, _) ← cut? ['<', '/'] rest
  return content

/-- The identifier of the shell that a reply says was created. -/
def shellId (reply : String) : Attempt String :=
  let text := reply.toList
  match (elementText? "rsp:ShellId" text).or (selectedShell? text) with
  | some id =>
    let id := trimChars id
    if id.isEmpty then .error (.shellCreation "Failed to parse shell ID from response")
    else .ok (String.ofList id)
  | none => .error (.shellCreation "Failed to parse shell ID from response")

/-- The identifier of the command that a reply says was started. -/
def commandId (reply : String) : Attempt String :=
  match elementText? "rsp:CommandId" reply.toList with
  | some id => .ok (String.ofList (trimChars id))
  | none => .error (.execution "Failed to parse command ID from response")

/-! ## Output -/

/-- What one poll brought. -/
structure Chunk where
  stdout : Bytes := []
  stderr : Bytes := []
  exitCode : Option Int32 := none
  /-- Whether the command has finished. -/
  done : Bool := false
  deriving DecidableEq, Repr, Inhabited

/-- What a poll brings that found nothing yet. -/
def Chunk.pending : Chunk := {}

/-- The opening of a stream's element. -/
def streamOpening (name : String) : List Char := "<rsp:Stream Name=\"".toList ++ name.toList ++ ['"']

/-- The closing tag of a stream's element. -/
def streamClosing : List Char := "</rsp:Stream>".toList

/-- The octets of a stream's elements, those of the last one first. An element without an end ends
the search, and an element without content adds nothing. -/
def streamParts (name : String) (acc : List Bytes) (text : List Char) :
    Except Base64.Fault (List Bytes) :=
  match _hOpen : cut? (streamOpening name) text with
  | none => .ok acc
  | some (_, after) =>
    match _hTag : cut? ['>'] (streamOpening name ++ after) with
    | none => .ok acc
    | some (tag, rest) =>
      if tag.getLast? = some '/' then streamParts name acc rest
      else
        match _hClose : cut? streamClosing rest with
        | none => .ok acc
        | some (content, more) =>
          let content := trimChars content
          if content.isEmpty then streamParts name acc more
          else
            match Base64.decode (Utf8.encode (String.ofList content)) with
            | .ok bytes => streamParts name (bytes :: acc) more
            | .error fault => .error fault
termination_by text.length
decreasing_by
  all_goals
    have h1 := eq_append_of_cut? _hOpen
    have h2 := length_lt_of_cut? (by simp) _hTag
    simp only [h1, List.length_append] at h2 ⊢
    try (have h3 := length_lt_of_cut? (by decide) _hClose)
    omega

/-- The octets of one stream in a reply. -/
def decodeStream (name reply : String) : Attempt Bytes :=
  match streamParts name [] reply.toList with
  | .ok parts => .ok parts.reverse.flatten
  | .error fault => .error (.encoding s!"Invalid {name} stream: {fault.message}")

/-- The mark of a finished command. -/
def doneMark : List Char := "CommandState/Done\"".toList

/-- What a reply to a poll brings. -/
def receiveChunk (reply : String) : Attempt Chunk := do
  let text := reply.toList
  let stdout ← decodeStream "stdout" reply
  let stderr ← decodeStream "stderr" reply
  let done := occurs doneMark text
  match elementText? "rsp:ExitCode" text with
  | none => return { stdout, stderr, done, exitCode := none }
  | some code =>
    match Integer.readInt32 (trimChars code) with
    | .ok n => return { stdout, stderr, done, exitCode := some n }
    | .error fault =>
      let shown := quoted (String.ofList code)
      throw (.execution s!"Invalid exit code {shown}: {fault.message}")

/-! ## Faults -/

/-- The fault code of a poll that timed out without output. -/
def timeoutCode : List Char := "2150858793".toList

/-- Whether a fault says that there is no output yet. -/
def isReceiveTimeout (reply : String) : Bool := occurs timeoutCode reply.toList

/-- The reason that a fault gives, or the whole reply where it gives none. -/
def faultReason (reply : String) : String :=
  let text := reply.toList
  let reason := (elementText? "s:Text" text).or (elementText? "f:Message" text)
  String.ofList (trimChars (reason.getD text))

end Hostlink.WinRm
