import Hostlink.Cli.Usage
import Hostlink.Connector.Os
import Hostlink.Text.Integer

/-!
# Levels of a command line

The words before the verb make one level, those after it another. Words are read from the left. A
flag's value is not looked at before the next flag, the next plain word or the end, so a word that
is not known is refused before a value that is not understood.
-/

namespace Hostlink.Cli

open Connector Text

/-- How results are printed. -/
inductive Format where
  | human
  | json
  deriving DecidableEq, Repr

/-- What was given on a level. -/
structure Given where
  target : Option String := none
  verbosity : Option Nat := none
  format : Option Format := none
  expectedCode : Option Int32 := none
  forceSplit : Bool := false
  os : Option Os := none
  script : Option String := none
  pollAttempts : Option UInt32 := none
  pollTick : Option Nat := none
  /-- The plain word. -/
  word : Option String := none
  deriving DecidableEq, Repr

namespace Given

/-- Whether nothing was given. -/
def isEmpty (g : Given) : Bool := g = {}

/-- Reads a path. -/
def readPath (f : Flag) (v : String) : Except UsageFault String :=
  if v.isEmpty then .error (.invalidValue f) else .ok v

/-- Reads the name of a format. -/
def readFormat : String → Except UsageFault Format
  | "human" => .ok .human
  | "json" => .ok .json
  | _ => .error (.invalidValue .output)

/-- Reads an integer from `low` to `high`. -/
def readInt (f : Flag) (low high : Int) (v : String) : Except UsageFault Int :=
  match Integer.read 9223372036854775808 9223372036854775807 v.toList with
  | .ok n => if low ≤ n ∧ n ≤ high then .ok n else .error (.unreadableValue f v)
  | .error _ => .error (.unreadableValue f v)

/-- Reads an unsigned integer of 64 bits. -/
def readLong (f : Flag) (v : String) : Except UsageFault Nat :=
  match Integer.readUnsigned 64 v.toList with
  | .ok n => .ok n
  | .error _ => .error (.unreadableValue f v)

/-- Reads the name of a family of systems. -/
def readOs (v : String) : Except UsageFault Os :=
  match Os.parse? v with
  | some os => .ok os
  | none => .error (.unreadableValue .os v)

/-- Takes a value that a flag must not have had before. -/
def once {α : Type} (f : Flag) (before : Option α) (value : Except UsageFault α) :
    Except UsageFault (Option α) :=
  if before.isSome then .error (.repeated f) else value.map some

/-- Takes the value of a flag. -/
def set (g : Given) (f : Flag) (v : String) : Except UsageFault Given :=
  match f with
  | .target => return { g with target := ← once f g.target (readPath f v) }
  | .output => return { g with format := ← once f g.format (readFormat v) }
  | .expectedCode =>
    let code := (readInt f (-2147483648) 2147483647 v).map Int32.ofInt
    return { g with expectedCode := ← once f g.expectedCode code }
  | .os => return { g with os := ← once f g.os (readOs v) }
  | .script => return { g with script := ← once f g.script (readPath f v) }
  | .pollAttempts =>
    let attempts := (readInt f 0 4294967295 v).map fun n => UInt32.ofNat n.toNat
    return { g with pollAttempts := ← once f g.pollAttempts attempts }
  | .pollTick => return { g with pollTick := ← once f g.pollTick (readLong f v) }
  | .verbose | .help | .version | .forceSplit => .error (.needlessValue f)

/-- Takes a flag that has no value. -/
def raise (g : Given) (verb : Option Verb) : Flag → Except UsageFault Given
  | .verbose => .ok { g with verbosity := some (g.verbosity.getD 0 + 1) }
  | .forceSplit =>
    if g.forceSplit then .error (.repeated .forceSplit) else .ok { g with forceSplit := true }
  | .help => .error .helpWanted
  | .version => .error (.versionWanted verb)
  | f => .error (.invalidValue f)

end Given

/-- A flag whose value is to come, or has come and was not looked at yet. -/
structure Pending where
  flag : Flag
  value : Option String := none

/-- The reading of a level. -/
structure Level where
  /-- The verb before the level's words. -/
  verb : Option Verb
  given : Given := {}
  pending : Option Pending := none

namespace Level

/-- Looks at the value that has not been looked at. -/
def settle (l : Level) : Except UsageFault Level :=
  match l.pending with
  | none => .ok l
  | some ⟨f, none⟩ => .error (.invalidValue f)
  | some ⟨f, some v⟩ => do return { l with given := ← l.given.set f v, pending := none }

/-- The flag whose value is the next word. -/
def waiting (l : Level) : Option Flag :=
  match l.pending with
  | some ⟨f, none⟩ => some f
  | _ => none

/-- Waits for the value of a flag. -/
def await (l : Level) (f : Flag) : Except UsageFault Level := do
  return { ← l.settle with pending := some ⟨f, none⟩ }

/-- Takes a flag together with its value. -/
def attach (l : Level) (f : Flag) (v : String) : Except UsageFault Level := do
  let l ← l.settle
  return { l with given := ← l.given.set f v }

/-- Takes a flag that has no value. -/
def raise (l : Level) (f : Flag) : Except UsageFault Level := do
  let l ← l.settle
  return { l with given := ← l.given.raise l.verb f }

/-- Reads a word that starts with two dashes, which are left out here. -/
def readLong (l : Level) (word : List Char) : Except UsageFault Level :=
  let (name, value) := word.span (· ≠ '=')
  match (Flag.of l.verb).find? (·.long.toList = name) with
  | none => .error (.unknownArgument (String.ofList ('-' :: '-' :: name)))
  | some f =>
    match f.takesValue, value with
    | true, _ :: v => l.attach f (String.ofList v)
    | true, [] => l.await f
    | false, _ :: _ => .error (.needlessValue f)
    | false, [] => l.raise f

/-- Reads the letters after one dash. What follows a letter that takes a value is that value. -/
def readShort (l : Level) : List Char → Except UsageFault Level
  | [] => .ok l
  | c :: rest =>
    match (Flag.of l.verb).find? (·.short? = some c) with
    | none => .error (.unknownArgument (String.ofList ['-', c]))
    | some f =>
      if f.takesValue then
        match rest with
        | [] => l.await f
        | '=' :: v => l.attach f (String.ofList v)
        | v => l.attach f (String.ofList v)
      else do readShort (← l.raise f) rest

/-- Whether a word stands for a verb, or for help. -/
def isVerb (word : String) : Bool := word = helpWord || Verb.all.any (·.name = word)

/-- Takes a plain word. Only `exec` has one, and before the verb any other word was meant to be the
verb, unless a verb comes too late. -/
def take (l : Level) (trailing : Bool) (word : String) : Except UsageFault Level :=
  match l.verb, l.given.word with
  | some .exec, none => do
    let l ← l.settle
    return { l with given.word := some word }
  | none, _ =>
    .error (if trailing && isVerb word then .unknownArgument word else .unknownVerb word)
  | _, _ => .error (.unknownArgument word)

/-- Reads the words after the one that asks for help: at most the name of a verb. -/
def helpFor : List String → UsageFault
  | [] => .helpWanted
  | [word] => if isVerb word then .helpWanted else .unknownVerb word
  | word :: next :: _ => .unknownVerb (if isVerb word then next else word)

/-- Reads a word that is neither a verb nor a mark, where no value with dashes is awaited. -/
def readWord (l : Level) (word : String) : Except UsageFault Level :=
  match word.toList, l.waiting with
  | '-' :: '-' :: name, _ => l.readLong name
  | '-' :: c :: cs, _ => l.readShort (c :: cs)
  | _, some f => .ok { l with pending := some ⟨f, some word⟩ }
  | _, none => l.take false word

/-- Reads words up to the verb, if one is to come. After two dashes alone all words are plain. -/
def read (trailing : Bool) (l : Level) :
    List String → Except UsageFault (Level × Option (Verb × List String))
  | [] => .ok (l, none)
  | word :: rest =>
    if trailing then do read true (← l.take true word) rest
    else
      match l.waiting, l.verb, Verb.all.find? (·.name = word) with
      | none, none, some verb => .ok (l, some (verb, rest))
      | waiting, verb, _ =>
        if waiting.isNone && verb.isNone && word = helpWord then .error (helpFor rest)
        else
          match waiting.filter (·.takesDash) with
          | some f => read false { l with pending := some ⟨f, some word⟩ } rest
          | none =>
            if word = "--" then read true l rest
            else do read false (← l.readWord word) rest

/-- Ends a level. A target that is not given is taken from the environment. -/
def finish (l : Level) (environment : Option String) : Except UsageFault Level := do
  let l ← l.settle
  match l.given.target, environment with
  | none, some path =>
    let _ ← Given.readPath .target path
    return l
  | _, _ => return l

end Level

end Hostlink.Cli
