import Hostlink.Link.Station
import Hostlink.Target.Description
import Hostlink.Toml.Document

/-!
# Target files

A target is described by a file in TOML on the local machine. Unlike a description that comes from
elsewhere, a file has to name an address.
-/

namespace Hostlink.Target

/-- The fault of a text that describes no target. -/
def unparsed (reason : String) : LinkFault := .configuration s!"Failed to parse target: {reason}"

/-- The target that a text in TOML describes. -/
def ofToml (text : String) : Attempt Target :=
  match Toml.record? text with
  | none => .error (unparsed "TOML parse error")
  | some v =>
    match decode .toml v with
    | .error fault => .error (unparsed fault.message)
    | .ok t =>
      if (Text.trim t.address).isEmpty then
        .error (.configuration "target address must not be empty")
      else .ok t

/-- The target that a file describes. -/
def ofFile (station : Station) (path : String) : Attempt Target :=
  match station.readText path with
  | .ok text => ofToml text
  | .error fault =>
    .error (.configuration s!"Failed to read target file {path}: {fault.message}")

/-- The local files that a connection to a target reads. -/
def localFiles (t : Target) : List String :=
  (t.credentials.bind (·.keyPath)).toList ++ t.winRm.certificatePath.toList

end Hostlink.Target
