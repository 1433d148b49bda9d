import Hostlink.Fault

/-!
# Failures

What can go wrong while a connector is managed, and, above both layers, what can go wrong at all. A
failure of a lower layer is told in that layer's words.
-/

namespace Hostlink

/-- Why a connector could not be managed. -/
inductive ConnectorFault where
  /-- The link to the target failed. -/
  | link (fault : LinkFault)
  /-- A name that is no family of systems. -/
  | unknownOs (name : String)
  /-- The service never reported that it was running. -/
  | inactive (attempts : Nat)
  /-- The configuration cannot be read. -/
  | unreadableConfig (reason : String)
  /-- The configuration names no connector. -/
  | missingId
  deriving Inhabited

namespace ConnectorFault

/-- The wording of a connector's fault. -/
def message : ConnectorFault → String
  | link fault => fault.message
  | unknownOs name => s!"unknown target OS '{name}' (expected linux, darwin or windows)"
  | inactive attempts => s!"connector did not become active after {attempts} attempts"
  | unreadableConfig reason => s!"failed to parse connector config: {reason}"
  | missingId => "connector config does not contain a connector_id"

/-- The wordings of what lies behind a connector's fault, nearest first. -/
def sources : ConnectorFault → List String
  | link fault => fault.sources
  | unreadableConfig reason => [reason]
  | unknownOs _ | inactive _ | missingId => []

end ConnectorFault

/-- Any failure. -/
inductive Failure where
  | link (fault : LinkFault)
  | connector (fault : ConnectorFault)
  /-- A local file could not be read. -/
  | fileUnreadable (path : String) (cause : IoFault)

namespace Failure

/-- The wording of a failure. -/
def message : Failure → String
  | link fault => fault.message
  | connector fault => fault.message
  | fileUnreadable path cause => s!"Failed to read '{path}': {cause.message}"

/-- The wordings of what lies behind a failure, nearest first. -/
def sources : Failure → List String
  | link fault => fault.sources
  | connector fault => fault.sources
  | fileUnreadable _ cause => cause.message :: cause.sources

/-- Whether the target refused the connection. -/
def isRefused : Failure → Bool
  | link fault | connector (.link fault) => fault.isRefused
  | connector _ | fileUnreadable .. => false

end Failure

end Hostlink
