import Hostlink.Value.Decode

/-!
# Poll policies

How often, and at what distance, the connector is asked whether it is running. A span of time is
whole seconds and nanoseconds; nanoseconds that make up whole seconds are carried over.
-/

namespace Hostlink.Connector

/-- A span of time. -/
structure Span where
  seconds : Nat
  nanoseconds : Nat
  deriving DecidableEq, Repr, Inhabited

namespace Span

open Value

/-- How many nanoseconds a second has. -/
def nanosecondsPerSecond : Nat := 1000000000

/-- So many whole seconds. -/
def ofSeconds (seconds : Nat) : Span := ⟨seconds, 0⟩

/-- The written form of a span. -/
def encode (s : Span) : Value := .record [("secs", .int s.seconds), ("nanos", .int s.nanoseconds)]

/-- The fields of a span. -/
def layout : Layout := ⟨"Duration", ["secs", "nanos"]⟩

/-- Reads one field of a span; it has no others. -/
def check (d : Dialect) (name : String) (v : Value) : Except Value.Fault Unit :=
  match name with
  | "secs" => discard (readUnsigned 64 d v)
  | "nanos" => discard (readUnsigned 32 d v)
  | _ => .error (.unknownField name layout.fields)

/-- Reads a span. -/
def decode : Reader Span := fun d v => do
  let fs ← layout.view check d v
  let missing (i : Nat) : Except Value.Fault Nat := throw (.invalidLength i "struct Duration")
  let field (i : Nat) (name : String) (bits : Nat) : Except Value.Fault Nat :=
    if fs.byPosition ∧ (fs.find? name).isNone then missing i
    else fs.read name (readUnsigned bits) none
  let seconds ← field 0 "secs" 64
  let nanoseconds ← field 1 "nanos" 32
  let seconds := seconds + nanoseconds / nanosecondsPerSecond
  if seconds ≥ UInt64.size then throw (.overflow "Duration")
  layout.refuseSurplus d v
  return ⟨seconds, nanoseconds % nanosecondsPerSecond⟩

end Span

/-- How often, and at what distance, to poll. -/
structure PollPolicy where
  attempts : UInt32 := 5
  tick : Span := .ofSeconds 3
  deriving DecidableEq, Repr, Inhabited

namespace PollPolicy

open Value

/-- The written form of a policy. -/
def encode (p : PollPolicy) : Value :=
  .record [("attempts", .int p.attempts.toNat), ("tick", p.tick.encode)]

/-- The fields of a policy. -/
def layout : Layout := ⟨"PollPolicy", ["attempts", "tick"]⟩

/-- Reads one field of a policy. -/
def check (d : Dialect) (name : String) (v : Value) : Except Value.Fault Unit :=
  match name with
  | "attempts" => discard (readUInt32 d v)
  | "tick" => discard (Span.decode d v)
  | _ => .ok ()

/-- Reads a policy. -/
def decode : Reader PollPolicy := fun d v => do
  let fs ← layout.view check d v
  let attempts ← fs.read "attempts" readUInt32 none
  let tick ← fs.read "tick" Span.decode none
  layout.refuseSurplus d v
  return { attempts, tick }

end PollPolicy

end Hostlink.Connector
