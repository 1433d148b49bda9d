import Hostlink.Bytes.Utf8
import Hostlink.Fault
import Hostlink.Ssh.Key

/-!
# The local machine

What a link needs of the machine it starts from: its name, the content of its files, and the libraries
that are installed there. Which keys and which certificates can be used is up to these; nothing that is
said of links depends on it.
-/

namespace Hostlink

/-- The machine that links start from. -/
structure Station where
  /-- The name that the machine gives when it logs in elsewhere. -/
  workstation : String
  /-- The content of a file. -/
  read : String → Except IoFault Bytes
  /-- The key in the text of a private key, or what is wrong with it. -/
  readKey : String → Except String Ssh.Key
  /-- What is wrong with a file of certificates, if it cannot be read. -/
  readCertificate : Bytes → Except String Unit
  /-- What is wrong with a client for requests, if there can be none: one that may accept any
  certificate of an endpoint, and trusts those of a file besides. -/
  buildClient : (anyCertificate : Bool) → (trusted : Option Bytes) → Except String Unit

namespace Station

/-- The failure of a file that holds no text. -/
def notText : IoFault := .custom .invalidData (.text "stream did not contain valid UTF-8")

/-- The content of a file as text. -/
def readText (s : Station) (path : String) : Except IoFault String :=
  match s.read path with
  | .error fault => .error fault
  | .ok bytes =>
    match Utf8.decode? bytes with
    | some text => .ok text
    | none => .error notText

end Station

end Hostlink
