import Hostlink.Text.Blank
import Hostlink.Transport
import Hostlink.Value.Decode

/-!
# The connector on each family of systems

The connector is managed by five operations, and each family of systems has a literal command for
each of them.
-/

namespace Hostlink.Connector

/-- The connector's service on Unix-like systems. -/
def unixService : String := "access-connector"

/-- The connector's service on Windows. -/
def windowsService : String := "AccessConnector"

/-- The connector's configuration on Unix-like systems. -/
def unixConfig : String := "/etc/access-connector/config.yaml"

/-- The connector's configuration on Windows. -/
def windowsConfig : String := "C:\\ProgramData\\AccessConnector\\config.yaml"

/-- A management operation. -/
inductive Operation where
  | stopService
  | removeService
  | removeFiles
  /-- Succeeds only while the service is running. -/
  | checkActive
  /-- Prints the configuration. -/
  | readConfig
  deriving DecidableEq, Repr, Inhabited

namespace Operation

/-- Every operation, in order. -/
def all : List Operation := [stopService, removeService, removeFiles, checkActive, readConfig]

/-- The name of an operation. -/
def name : Operation → String
  | stopService => "stop-service"
  | removeService => "remove-service"
  | removeFiles => "remove-files"
  | checkActive => "check-active"
  | readConfig => "read-config"

/-- Reads an operation. -/
def decode : Value.Reader Operation := Value.readVariant (all.map fun o => (o.name, o))

end Operation

/-- A family of operating systems. -/
inductive Os where
  | linux
  | darwin
  | windows
  deriving DecidableEq, Repr, Inhabited

namespace Os

/-- Every family, in order. -/
def all : List Os := [linux, darwin, windows]

/-- The name of a family. -/
def name : Os → String
  | linux => "linux"
  | darwin => "darwin"
  | windows => "windows"

/-- Reads a family from a structured value. -/
def decode : Value.Reader Os := Value.readVariant (all.map fun o => (o.name, o))

/-- Reads a family from a text, whatever the case and the blanks around it. -/
def parse? (text : String) : Option Os :=
  match (Text.trim text).toLower with
  | "linux" => some linux
  | "darwin" | "macos" => some darwin
  | "windows" => some windows
  | _ => none

/-- The transport that a family is normally reached by. -/
def transport : Os → Transport
  | windows => .winRm
  | linux | darwin => .ssh

/-- The family that a transport normally leads to. -/
def ofTransport (t : Transport) : Os := (all.find? (·.transport = t)).getD linux

/-- The command of an operation on Unix-like systems. -/
def unixCommand : Operation → String
  | .stopService => "systemctl stop access-connector"
  | .removeService => "systemctl disable access-connector && " ++
      "rm -f /etc/systemd/system/access-connector.service && systemctl daemon-reload"
  | .removeFiles => "rm -rf /opt/access-connector /etc/access-connector"
  | .checkActive => "systemctl is-active --quiet access-connector"
  | .readConfig => "cat /etc/access-connector/config.yaml"

/-- The command of an operation on Windows. -/
def windowsCommand : Operation → String
  | .stopService => "Stop-Service -Name AccessConnector -Force"
  | .removeService =>
      "(Get-WmiObject -Class Win32_Service -Filter \"Name='AccessConnector'\").Delete()"
  | .removeFiles => "Remove-Item -Recurse -Force -Path " ++
      "'C:\\Program Files\\AccessConnector','C:\\ProgramData\\AccessConnector'"
  | .checkActive => "if ((Get-Service -Name AccessConnector -ErrorAction Stop).Status " ++
      "-ne 'Running') \x7b exit 1 \x7d"
  | .readConfig => "Get-Content -Raw -Path 'C:\\ProgramData\\AccessConnector\\config.yaml'"

/-- The command of an operation. -/
def command : Os → Operation → String
  | linux, o | darwin, o => unixCommand o
  | windows, o => windowsCommand o

end Os

end Hostlink.Connector
