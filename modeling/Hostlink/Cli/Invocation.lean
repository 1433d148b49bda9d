import Hostlink.Cli.Level
import Hostlink.Command
import Hostlink.Connector.Poll

/-!
# Invocations

What a command line asks for. What is given after the verb counts before what is given ahead of it,
and both count before the environment.
-/

namespace Hostlink.Cli

open Connector

/-- What is to be done. -/
inductive Action where
  | exec (command : Command)
  | install (os : Option Os) (script : String) (poll : PollPolicy)
  | uninstall (os : Option Os)
  deriving Repr

/-- What a command line asks for. -/
structure Invocation where
  /-- The path of the file that describes the target. -/
  target : Option String
  /-- How much is told, from zero to three. -/
  verbosity : Nat
  format : Format
  action : Action
  deriving Repr

namespace Invocation

/-- The most that can be told. -/
def verbosityLimit : Nat := 3

/-- The command of an `exec`. -/
def commandOf (text : String) (g : Given) : Command :=
  let command : Command := { text, expectedCode := g.expectedCode.getD 0 }
  if g.forceSplit then command.withHint Command.forceSplit (.bool true) else command

/-- The polling of an `install`. -/
def pollOf (g : Given) : PollPolicy :=
  let standard : PollPolicy := {}
  { attempts := g.pollAttempts.getD standard.attempts
    tick := (g.pollTick.map Span.ofSeconds).getD standard.tick }

/-- The action that a verb and its level ask for. -/
def actionOf (g : Given) : Verb → Except UsageFault Action
  | .exec =>
    match g.word with
    | some text => .ok (.exec (commandOf text g))
    | none => .error (.missingArgument "<COMMAND>")
  | .install =>
    match g.script with
    | some script => .ok (.install g.os script (pollOf g))
    | none => .error (.missingArgument "--script <SCRIPT>")
  | .uninstall => .ok (.uninstall g.os)

/-- Reads a command line; `environment` is the target that the environment names. -/
def read (environment : Option String) (args : List String) : Except UsageFault Invocation := do
  let (outer, next) ← Level.read false { verb := none } args
  match next with
  | none =>
    let outer ← outer.finish environment
    throw (if outer.given.isEmpty && environment.isNone then .nothing else .missingVerb)
  | some (verb, rest) =>
    let (inner, _) ← Level.read false { verb := some verb } rest
    let inner := (← inner.finish environment).given
    let action ← actionOf inner verb
    let outer := (← outer.finish environment).given
    return {
      target := (inner.target.or outer.target).or environment
      verbosity := min ((inner.verbosity.or outer.verbosity).getD 0) verbosityLimit
      format := (inner.format.or outer.format).getD .human
      action }

/-- The local files that an invocation names. -/
def localFiles (inv : Invocation) : List String :=
  match inv.action with
  | .install _ script _ => script :: inv.target.toList
  | .exec _ | .uninstall _ => inv.target.toList

end Invocation

end Hostlink.Cli
