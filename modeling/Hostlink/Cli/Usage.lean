/-!
# The words of the command line

The program's verbs and flags, and why a command line is not understood. Flags of the program can be
given before the verb and after it; each verb has flags of its own.
-/

namespace Hostlink.Cli

/-- What the program can be asked to do. -/
inductive Verb where
  | exec
  | install
  | uninstall
  deriving DecidableEq, Repr

namespace Verb

/-- Every verb. -/
def all : List Verb := [exec, install, uninstall]

/-- The word for a verb. -/
def name : Verb → String
  | exec => "exec"
  | install => "install"
  | uninstall => "uninstall"

end Verb

/-- The word that asks for help instead of a verb. -/
def helpWord : String := "help"

/-- Something that is given by a name of its own. -/
inductive Flag where
  | target
  | verbose
  | output
  | help
  | version
  | expectedCode
  | forceSplit
  | os
  | script
  | pollAttempts
  | pollTick
  deriving DecidableEq, Repr

namespace Flag

/-- The name after two dashes. -/
def long : Flag → String
  | target => "target"
  | verbose => "verbose"
  | output => "output"
  | help => "help"
  | version => "version"
  | expectedCode => "expected-rc"
  | forceSplit => "force-split"
  | os => "os"
  | script => "script"
  | pollAttempts => "poll-attempts"
  | pollTick => "poll-tick"

/-- The letter after one dash. -/
def short? : Flag → Option Char
  | target => some 't'
  | verbose => some 'v'
  | help => some 'h'
  | version => some 'V'
  | _ => none

/-- Whether a value comes with the flag. -/
def takesValue : Flag → Bool
  | verbose | help | version | forceSplit => false
  | _ => true

/-- Whether the value can start with a dash. -/
def takesDash (f : Flag) : Bool := f = expectedCode

/-- The flags that can be given anywhere. -/
def common : List Flag := [target, verbose, output, help, version]

/-- The flags of a verb, or those before it. -/
def of : Option Verb → List Flag
  | none => common
  | some .exec => common ++ [expectedCode, forceSplit]
  | some .install => common ++ [os, script, pollAttempts, pollTick]
  | some .uninstall => common ++ [os]

end Flag

/-- Why a command line asks for nothing that can be done. -/
inductive UsageFault where
  | unknownArgument (word : String)
  | unknownVerb (word : String)
  | missingVerb
  | missingArgument (name : String)
  /-- A value that cannot be read. -/
  | unreadableValue (flag : Flag) (value : String)
  /-- A value that is missing or empty, or none of those there are. -/
  | invalidValue (flag : Flag)
  /-- A flag that is given twice. -/
  | repeated (flag : Flag)
  /-- A value for a flag that takes none. -/
  | needlessValue (flag : Flag)
  | helpWanted
  | versionWanted (verb : Option Verb)
  /-- Nothing at all. -/
  | nothing
  deriving DecidableEq, Repr

/-- The name of the program. -/
def programName : String := "remote-connector"

/-- The version of the program. -/
def version : String := "0.1.0"

/-- How the program is used. -/
def usage : String :=
  s!"Usage: {programName} [-t FILE] [-v] [--output human|json] exec|install|uninstall\n" ++
    "  exec COMMAND [--expected-rc CODE] [--force-split]\n" ++
    "  install --script FILE [--os OS] [--poll-attempts N] [--poll-tick SECONDS]\n" ++
    "  uninstall [--os OS]\n"

namespace UsageFault

/-- Whether the command line asks for an answer rather than being wrong. -/
def isQuestion : UsageFault → Bool
  | helpWanted | versionWanted _ => true
  | _ => false

/-- The wording of a fault, or the answer to a question. -/
def message : UsageFault → String
  | unknownArgument word => s!"error: unexpected argument '{word}' found\n"
  | unknownVerb word => s!"error: unrecognized subcommand '{word}'\n"
  | missingVerb => "error: a subcommand is required but one was not provided\n"
  | missingArgument name => s!"error: the required argument {name} was not provided\n"
  | unreadableValue flag value => s!"error: invalid value '{value}' for '--{flag.long}'\n"
  | invalidValue flag => s!"error: a value is required for '--{flag.long}'\n"
  | repeated flag => s!"error: the argument '--{flag.long}' cannot be used multiple times\n"
  | needlessValue flag => s!"error: no value is expected for '--{flag.long}'\n"
  | helpWanted | nothing => usage
  | versionWanted none => s!"{programName} {version}\n"
  | versionWanted (some verb) => s!"{programName}-{verb.name} {version}\n"

end UsageFault

end Hostlink.Cli
