import Hostlink.Bytes.Utf8
import Hostlink.Command

/-!
# Channels

A command runs on a channel of its own. The messages that come back are gathered until the channel
is closed or no more come: the octets of each stream are put together before they are read as text,
and of several reports on how the command ended the last one counts. A server that reports nothing
ran the command to its end.
-/

namespace Hostlink.Ssh

/-- A message on a channel. -/
inductive Message where
  /-- Octets of the standard output. -/
  | data (bytes : Bytes)
  /-- Octets of a numbered stream; the one numbered 1 is the standard error. -/
  | extended (stream : Nat) (bytes : Bytes)
  /-- The command returned a code, which is sent without its sign. -/
  | exitStatus (status : UInt32)
  /-- A signal ended the command. -/
  | exitSignal (name : String)
  | eof
  | success
  | failure
  /-- A message of any other kind, such as one that governs the flow. -/
  | other
  | close
  deriving DecidableEq, Repr

/-- The exit code of a command that a signal has ended. -/
def signalExitCode : Int32 := -1

/-- What was gathered from a channel, the last parts first. -/
structure Gathered where
  stdout : List Bytes := []
  stderr : List Bytes := []
  exitCode : Option Int32 := none

namespace Gathered

/-- Takes one message that is not the close. -/
def push (g : Gathered) : Message → Gathered
  | .data bytes => { g with stdout := bytes :: g.stdout }
  | .extended 1 bytes => { g with stderr := bytes :: g.stderr }
  | .exitStatus status => { g with exitCode := some status.toInt32 }
  | .exitSignal _ => { g with exitCode := some signalExitCode }
  | .extended .. | .eof | .success | .failure | .other | .close => g

/-- The outcome of what was gathered. -/
def outcome (g : Gathered) : Outcome where
  stdout := Utf8.decodeLossy g.stdout.reverse.flatten
  stderr := Utf8.decodeLossy g.stderr.reverse.flatten
  exitCode := g.exitCode.getD 0

end Gathered

/-- The outcome of a channel's messages up to the first close. -/
def collect (messages : List Message) : Outcome :=
  ((messages.takeWhile (· != .close)).foldl Gathered.push {}).outcome

end Hostlink.Ssh
