import Hostlink.Bytes.Base64
import Hostlink.Bytes.Utf16
import Hostlink.Bytes.Utf8
import Hostlink.Command
import Hostlink.Pieces

/-!
# Scripts for PowerShell

A command line has a practical length limit, so a script either travels inside one line, encoded,
or is staged: a file is created on the target, the encoded script is appended to it piece by piece,
the file is run, and it is deleted. Pieces have a length divisible by four, so each decodes on its
own.
-/

namespace Hostlink.WinRm

/-- The base64 text of a script in UTF-16. -/
def encodeScript (script : String) : String := String.ofList (Base64.encode (Utf16.encode script))

/-- The script whose encoded form this is. -/
def decodeScript (encoded : String) : Attempt String :=
  match Base64.decode (Utf8.encode encoded) with
  | .error fault => .error (.encoding s!"Invalid base64: {fault.message}")
  | .ok bytes =>
    match Utf16.decode bytes with
    | .error fault => .error (.encoding fault.message)
    | .ok script => .ok script

/-- The longest text, in octets, that travels inside one line. -/
def singleLimit : Nat := 2000

/-- The length of a piece of a staged script. -/
def chunkSize : Nat := 4000

/-- The directory of staged scripts on the target. -/
def stagingDir : String := "C:\\Windows\\Temp\\remote-connector"

/-- The text cut into pieces of a size. -/
def splitChunks (size : Nat) (encoded : String) : List String :=
  (pieces size encoded.toList).map String.ofList

/-- How the interpreter is called for every step of staging. -/
def powershell : String := "powershell -NoProfile -NonInteractive"

/-- A script to be put together on the target from pieces. -/
structure StagedScript where
  /-- Where the script's file is on the target. -/
  path : String
  /-- The pieces, in the order in which they are appended. -/
  chunks : List String
  deriving DecidableEq, Repr

namespace StagedScript

/-- The script staged in a file named by `id`. -/
def ofScript (id script : String) : StagedScript :=
  ⟨stagingDir ++ "\\script-" ++ id ++ ".ps1", splitChunks chunkSize (encodeScript script)⟩

/-- Creates the staging directory where it is missing. -/
def ensureDirLine : String :=
  powershell ++ " -Command \"New-Item -ItemType Directory -Force -Path '" ++ stagingDir ++
    "' | Out-Null\""

/-- Creates the file with nothing but the byte order mark of UTF-16. -/
def createLine (s : StagedScript) : String :=
  powershell ++ " -Command \"[IO.File]::WriteAllBytes('" ++ s.path ++
    "', [byte[]](0xFF,0xFE))\""

/-- Appends the octets of one piece. -/
def appendLine (s : StagedScript) (chunk : String) : String :=
  powershell ++ " -Command \"$b=[Convert]::FromBase64String('" ++ chunk ++
    "');$f=[IO.File]::Open('" ++ s.path ++
    "','Append');$f.Write($b,0,$b.Length);$f.Close()\""

/-- Appends every piece, one line each. -/
def appendLines (s : StagedScript) : List String := s.chunks.map s.appendLine

/-- Runs the file. -/
def runLine (s : StagedScript) : String :=
  powershell ++ " -ExecutionPolicy Bypass -File \"" ++ s.path ++ "\""

/-- Deletes the file. -/
def cleanupLine (s : StagedScript) : String :=
  powershell ++ " -Command \"Remove-Item -Force -LiteralPath '" ++ s.path ++ "'\""

end StagedScript

/-- How a command is carried out. -/
inductive Plan where
  /-- One line that holds the script. -/
  | single (line : String)
  /-- A staged script. -/
  | staged (script : StagedScript)
  deriving DecidableEq, Repr

/-- The plan of a command: staged where it is too long for one line or where it is forced. `id`
names the file of a staged script. -/
def Plan.ofCommand (id : String) (c : Command) : Plan :=
  if c.text.utf8ByteSize ≤ singleLimit ∧ c.isForced = false then
    .single ("powershell -encodedcommand " ++ encodeScript c.text)
  else .staged (.ofScript id c.text)

end Hostlink.WinRm
