import Hostlink.Fault.SystemCode
import Hostlink.Link.Phase
import Hostlink.Transport

/-!
# Faults

What can go wrong between here and a target, as causes. `IoFault` is a failure of the operating
system or of a library that speaks in its terms; it may carry another failure inside. `LinkFault`
names the stage of a link that failed. Each has one wording, `message`, and the wordings of what
lies behind it, `sources`.

Only a refused dial is worth another attempt, and it can lie deep: `isRefused` looks at every
failure reachable through sources and payloads. The wordings of the link's own library are leaves.
-/

namespace Hostlink

/-- The kinds of system failures that are told apart. -/
inductive IoKind where
  | addressInUse
  | addressNotAvailable
  | alreadyExists
  | argumentListTooLong
  | brokenPipe
  | connectionAborted
  | connectionRefused
  | connectionReset
  | crossesDevices
  | deadlock
  | directoryNotEmpty
  | executableFileBusy
  | fileTooLarge
  | filesystemLoop
  | hostUnreachable
  | inProgress
  | interrupted
  | invalidData
  | invalidFilename
  | invalidInput
  | isDirectory
  | networkDown
  | networkUnreachable
  | notADirectory
  | notConnected
  | notFound
  | notSeekable
  | other
  | outOfMemory
  | permissionDenied
  | quotaExceeded
  | readOnlyFilesystem
  | resourceBusy
  | staleFileHandle
  | storageFull
  | timedOut
  | tooManyLinks
  | uncategorized
  | unexpectedEof
  | unsupported
  | wouldBlock
  | writeZero
  deriving DecidableEq, Repr

namespace IoKind

/-- The wording of a kind. -/
def text : IoKind → String
  | addressInUse => "address in use"
  | addressNotAvailable => "address not available"
  | alreadyExists => "entity already exists"
  | argumentListTooLong => "argument list too long"
  | brokenPipe => "broken pipe"
  | connectionAborted => "connection aborted"
  | connectionRefused => "connection refused"
  | connectionReset => "connection reset"
  | crossesDevices => "cross-device link or rename"
  | deadlock => "deadlock"
  | directoryNotEmpty => "directory not empty"
  | executableFileBusy => "executable file busy"
  | fileTooLarge => "file too large"
  | filesystemLoop => "filesystem loop or indirection limit (e.g. symlink loop)"
  | hostUnreachable => "host unreachable"
  | inProgress => "in progress"
  | interrupted => "operation interrupted"
  | invalidData => "invalid data"
  | invalidFilename => "invalid filename"
  | invalidInput => "invalid input parameter"
  | isDirectory => "is a directory"
  | networkDown => "network down"
  | networkUnreachable => "network unreachable"
  | notADirectory => "not a directory"
  | notConnected => "not connected"
  | notFound => "entity not found"
  | notSeekable => "seek on unseekable file"
  | other => "other error"
  | outOfMemory => "out of memory"
  | permissionDenied => "permission denied"
  | quotaExceeded => "quota exceeded"
  | readOnlyFilesystem => "read-only filesystem or storage medium"
  | resourceBusy => "resource busy"
  | staleFileHandle => "stale network file handle"
  | storageFull => "no storage space"
  | timedOut => "timed out"
  | tooManyLinks => "too many links"
  | uncategorized => "uncategorized error"
  | unexpectedEof => "unexpected end of file"
  | unsupported => "unsupported"
  | wouldBlock => "operation would block"
  | writeZero => "write zero"

/-- The kind that a system error code belongs to. -/
def ofCode : Nat → IoKind
  | 1 | 13 => permissionDenied
  | 2 => notFound
  | 4 => interrupted
  | 7 => argumentListTooLong
  | 11 => wouldBlock
  | 12 => outOfMemory
  | 16 => resourceBusy
  | 17 => alreadyExists
  | 18 => crossesDevices
  | 20 => notADirectory
  | 21 => isDirectory
  | 22 => invalidInput
  | 26 => executableFileBusy
  | 27 => fileTooLarge
  | 28 => storageFull
  | 29 => notSeekable
  | 30 => readOnlyFilesystem
  | 31 => tooManyLinks
  | 32 => brokenPipe
  | 35 => deadlock
  | 36 => invalidFilename
  | 38 | 95 => unsupported
  | 39 => directoryNotEmpty
  | 40 => filesystemLoop
  | 98 => addressInUse
  | 99 => addressNotAvailable
  | 100 => networkDown
  | 101 => networkUnreachable
  | 103 => connectionAborted
  | 104 => connectionReset
  | 107 => notConnected
  | 110 => timedOut
  | 111 => connectionRefused
  | 113 => hostUnreachable
  | 115 => inProgress
  | 116 => staleFileHandle
  | 122 => quotaExceeded
  | _ => uncategorized

end IoKind

mutual

/-- A failure of the operating system, or one told in its terms. -/
inductive IoFault where
  /-- A system call failed with a code. -/
  | code (code : Nat)
  /-- A kind and nothing more. -/
  | kind (kind : IoKind)
  /-- A kind with something that tells more. -/
  | custom (kind : IoKind) (payload : IoPayload)

/-- What a system failure can carry. -/
inductive IoPayload where
  | text (message : String)
  | io (inner : IoFault)
  | link (inner : LinkFault)
  /-- A failure of the SSH library, known by its wording. -/
  | ssh (message : String)

/-- A failure of a link, named by the stage that failed. -/
inductive LinkFault where
  /-- The dial failed. -/
  | dialFailed (address : String) (cause : IoFault)
  /-- Dial and handshake did not complete in time. -/
  | timedOut (address : String) (seconds : Nat)
  /-- The target rejected the login, or the login could not be carried out. -/
  | authentication (reason : String)
  /-- The remote shell could not be created. -/
  | shellCreation (reason : String)
  /-- An exchange with a WinRM endpoint failed below HTTP: layers of wording, outermost first,
  around at most one system failure. -/
  | http (endpoint : String) (layers : List String) (root : Option IoFault)
  /-- A command was given outside the connected phase. -/
  | notConnected
  /-- A move was asked for without a session. -/
  | invalidMove (move : Link.Move) (phase : Link.Phase)
  /-- The command ran, and its return code is not the expected one. -/
  | commandFailed (command : String) (exitCode : Int32) (stderr : String)
  /-- The command could not be run. -/
  | execution (reason : String)
  /-- The target has no credentials that the transport can use. -/
  | missingCredentials (transport : Transport)
  /-- The trusted certificate could not be read. -/
  | certificateUnreadable (cause : IoFault)
  /-- The private key could not be read. -/
  | keyUnreadable (path : String) (cause : IoFault)
  /-- A payload is not encoded as it should be. -/
  | encoding (reason : String)
  /-- The target's description is wrong or incomplete. -/
  | configuration (reason : String)
  /-- A failure of the SSH library, known by its wording. -/
  | ssh (message : String)
  /-- Any other system failure. -/
  | io (cause : IoFault)

end

namespace IoFault

/-- The kind of a failure. -/
def kindOf : IoFault → IoKind
  | .code n => IoKind.ofCode n
  | .kind k => k
  | .custom k _ => k

end IoFault

/-- The wordings of layers around a root, outermost first: each layer tells all that is inside. -/
def layered (root : Option String) : List String → List String
  | [] => root.toList
  | layer :: rest =>
    match layered root rest with
    | [] => [layer]
    | inner :: more => s!"{layer}: {inner}" :: inner :: more

mutual

/-- The wording of a system failure; a payload speaks for itself. -/
def IoFault.message : IoFault → String
  | .code n => s!"{Fault.systemText n} (os error {n})"
  | .kind k => k.text
  | .custom _ payload => payload.message

/-- The wording of a payload. -/
def IoPayload.message : IoPayload → String
  | .text message => message
  | .io inner => inner.message
  | .link inner => inner.message
  | .ssh message => message

/-- The wording of a link's failure. -/
def LinkFault.message : LinkFault → String
  | .dialFailed address cause => s!"Failed to connect to {address}: {cause.message}"
  | .timedOut address seconds => s!"Connection to {address} timed out after {seconds} seconds"
  | .authentication reason => s!"Authentication failed: {reason}"
  | .shellCreation reason => s!"Failed to create remote shell: {reason}"
  | .http endpoint layers root =>
    let inner := match root with
      | none => none
      | some cause => some cause.message
    let reason := (layered inner layers).headD ""
    s!"HTTP request to {endpoint} failed: {reason}"
  | .notConnected => "cannot run command while not being connected"
  | .invalidMove move phase => s!"cannot {move.name} while {phase.name}"
  | .commandFailed command exitCode stderr =>
    s!"failed to execute command [{command}] - [{exitCode.toInt}] - [{stderr}]"
  | .execution reason => s!"Command execution failed: {reason}"
  | .missingCredentials transport => s!"missing credentials for {transport.label} connection"
  | .certificateUnreadable cause => s!"failed to read certificate file: {cause.message}"
  | .keyUnreadable path cause => s!"failed to read private key file {path}: {cause.message}"
  | .encoding reason => s!"Encoding error: {reason}"
  | .configuration reason => s!"Invalid configuration: {reason}"
  | .ssh message => s!"SSH error: {message}"
  | .io cause => s!"IO error: {cause.message}"

end

mutual

/-- The wordings of what lies behind a system failure. A payload has already spoken as the failure
itself, so only what lies behind the payload follows. -/
def IoFault.sources : IoFault → List String
  | .code _ | .kind _ => []
  | .custom _ payload => payload.sources

/-- The wordings of what lies behind a payload. -/
def IoPayload.sources : IoPayload → List String
  | .text _ | .ssh _ => []
  | .io inner => inner.sources
  | .link inner => inner.sources

/-- The wordings of what lies behind a link's failure, nearest first. -/
def LinkFault.sources : LinkFault → List String
  | .dialFailed _ cause | .certificateUnreadable cause | .keyUnreadable _ cause | .io cause =>
    cause.message :: cause.sources
  | .http _ layers root =>
    match root with
    | none => layered none layers
    | some cause => layered (some cause.message) layers ++ cause.sources
  | _ => []

end

mutual

/-- Whether a system failure is a refused connection or carries one. -/
def IoFault.isRefused : IoFault → Bool
  | .code n => IoKind.ofCode n = .connectionRefused
  | .kind k => k = .connectionRefused
  | .custom k payload => k = .connectionRefused || payload.isRefused

/-- Whether a payload is a refused connection or carries one. -/
def IoPayload.isRefused : IoPayload → Bool
  | .text _ | .ssh _ => false
  | .io inner => inner.isRefused
  | .link inner => inner.isRefused

/-- Whether a link's failure was caused by the target refusing the connection. -/
def LinkFault.isRefused : LinkFault → Bool
  | .dialFailed _ cause | .certificateUnreadable cause | .keyUnreadable _ cause | .io cause =>
    cause.isRefused
  | .http _ _ root =>
    match root with
    | none => false
    | some cause => cause.isRefused
  | _ => false

end

/-- What may yield a value or the fault of a link. -/
abbrev Attempt (α : Type) := Except LinkFault α

instance : Inhabited IoFault := ⟨.kind .other⟩
instance : Inhabited LinkFault := ⟨.notConnected⟩

end Hostlink
