import Hostlink.Cli.Run
import Hostlink.Readers

/-!
# The program

Reads the local files that a run can ask for, runs, and prints. The program is built without a
network of its own, so a run that gets as far as dialling ends there.
-/

namespace Hostlink

/-- A failure to read a file, in the system's terms. -/
def ioFaultOf : IO.Error → IoFault
  | .noFileOrDirectory _ code _ | .permissionDenied _ code _ | .inappropriateType _ code _
  | .invalidArgument _ code _ => .code code.toNat
  | e => .custom .other (.text (toString e))

/-- Reads files, each with its content or the failure to read it. -/
def readFiles (paths : List String) : IO (List (String × Except IoFault Bytes)) :=
  paths.mapM fun (path : String) => do
    match ← (IO.FS.readBinFile path).toBaseIO with
    | .ok content => return (path, .ok content.toList)
    | .error e => return (path, .error (ioFaultOf e))

/-- A machine with the files that were read. -/
def stationOf (files : List (String × Except IoFault Bytes)) : Station :=
  .plain "" fun path => (files.lookup path).getD (.error (.kind .notFound))

end Hostlink

open Hostlink in
/-- Runs the program on its command line. -/
def main (args : List String) : IO UInt32 := do
  let environment ← IO.getEnv "REMOTE_CONNECTOR_TARGET"
  let inv := (Cli.Invocation.read environment args).toOption
  let named ← readFiles (inv.toList.flatMap (·.localFiles))
  let target := inv.bind fun inv => (Cli.loadTarget (stationOf named) inv.target).toOption
  let files ← readFiles (target.toList.flatMap (·.localFiles))
  let url := (target.map (·.endpoint)).getD ""
  let world := Surroundings.offline (stationOf (named ++ files)) url
  let (ending, _) := (Cli.run environment args).run world
  let errors ← IO.getStderr
  errors.putStr (ending.banner.getD "" ++ ending.notice ++ ending.report.getD "")
  IO.print ending.output
  return UInt32.ofNat ending.status
