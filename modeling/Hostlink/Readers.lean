import Hostlink.Link.Station
import Hostlink.Readers.Certificate
import Hostlink.Readers.OpenSsh

/-!
# What the program is built with

The libraries of the machines on which this program runs by itself. They read one form of private keys
and the outer form of certificates. A link takes any others instead.
-/

namespace Hostlink

/-- A machine with these libraries. -/
def Station.plain (workstation : String) (read : String → Except IoFault Bytes) : Station where
  workstation
  read
  readKey text := (OpenSsh.decode text).mapError (·.message)
  readCertificate _ := .ok ()
  buildClient
    | _, none => .ok ()
    | _, some file =>
      if Certificate.isAcceptable file then .ok () else .error "a certificate is not well-formed"

end Hostlink
