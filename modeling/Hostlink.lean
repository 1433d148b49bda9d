import Hostlink.Bytes
import Hostlink.Pieces
import Hostlink.Bytes.Base64
import Hostlink.Bytes.Utf8
import Hostlink.Bytes.Utf16
import Hostlink.Digest.Md4
import Hostlink.Digest.Md5
import Hostlink.Digest.Hmac
import Hostlink.Digest.Sha256
import Hostlink.Text.Blank
import Hostlink.Text.Cut
import Hostlink.Text.Integer
import Hostlink.Text.Markup
import Hostlink.Text.Quoted
import Hostlink.Text.UpperCase
import Hostlink.Decimal
import Hostlink.Value
import Hostlink.Value.Decode
import Hostlink.Value.Pretty
import Hostlink.Toml.Document
import Hostlink.Yaml.Document
import Hostlink.Fault
import Hostlink.Failure
import Hostlink.Link.Phase
import Hostlink.Link.Retry
import Hostlink.Link.Station
import Hostlink.Link.Lifecycle
import Hostlink.Target.Description
import Hostlink.Target.File
import Hostlink.Command
import Hostlink.WinRm.Connection
import Hostlink.Ssh.Connection
import Hostlink.Connection
import Hostlink.Connector.Os
import Hostlink.Connector.Poll
import Hostlink.Connector.Config
import Hostlink.Connector.Lifecycle
import Hostlink.Readers
import Hostlink.Cli.Run
import Hostlink.Main
import Hostlink.Proofs.Digest.Keyed
import Hostlink.Proofs.WinRm.History
import Hostlink.Proofs.WinRm.Isolation
import Hostlink.Proofs.Ssh.Channel
import Hostlink.Proofs.Ssh.Output
import Hostlink.Proofs.WinRm.Capture
import Hostlink.Proofs.WinRm.Pipes
import Hostlink.Proofs.WinRm.ThirdMessage
import Hostlink.Proofs.WinRm.Handshake
import Hostlink.Proofs.Fault.Chain
import Hostlink.Proofs.Link.Budget
import Hostlink.Proofs.Connecting
import Hostlink.Proofs.Verdict
import Hostlink.Proofs.Lifecycle
import Hostlink.Proofs.Connector.Steps
import Hostlink.Proofs.Connector.Installation
import Hostlink.Proofs.Connector.Polling
import Hostlink.Proofs.WinRm.Agreement
import Hostlink.Proofs.WinRm.Reading
import Hostlink.Proofs.WinRm.Envelope
import Hostlink.Proofs.WinRm.ScriptText
import Hostlink.Proofs.WinRm.Limits
import Hostlink.Proofs.WinRm.Onward
import Hostlink.Proofs.WinRm.Secrecy
import Hostlink.Proofs.Cli.Course
import Hostlink.Proofs.Description
import Hostlink.Proofs.Attribution
import Hostlink.Proofs.WinRm.Delivery
import Hostlink.Proofs.WinRm.CommandLine
import Hostlink.Proofs.WinRm.Splitting
import Hostlink.Proofs.WinRm.SecondMessage
import Hostlink.Proofs.WinRm.Identifiers
import Hostlink.Proofs.WinRm.Scanning
import Hostlink.Proofs.Address
