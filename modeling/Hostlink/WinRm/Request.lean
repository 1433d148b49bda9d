import Hostlink.Text.Markup

/-!
# Requests to a remote shell

The five requests of a shell's life, and the envelope that carries one: an action, the shell it
speaks of, options, and a body. What comes from outside (the endpoint, identifiers, command lines)
is escaped before it enters the envelope.
-/

namespace Hostlink.WinRm

/-- A request to an endpoint. -/
inductive Request where
  /-- Creates a shell. -/
  | create
  /-- Starts a command line in a shell. -/
  | command (shell line : String)
  /-- Polls for the output of a command. -/
  | receive (shell command : String)
  /-- Terminates a command, so that the shell can release it. -/
  | signal (shell command : String)
  /-- Deletes a shell. -/
  | delete (shell : String)
  deriving DecidableEq, Repr

/-- The code page of the shell's output, which is UTF-8. -/
def codepage : Nat := 65001

namespace Request

open Text

/-- The address that tells which request it is. -/
def action : Request → String
  | create => "http://schemas.xmlsoap.org/ws/2004/09/transfer/Create"
  | command .. => "http://schemas.microsoft.com/wbem/wsman/1/windows/shell/Command"
  | receive .. => "http://schemas.microsoft.com/wbem/wsman/1/windows/shell/Receive"
  | signal .. => "http://schemas.microsoft.com/wbem/wsman/1/windows/shell/Signal"
  | delete .. => "http://schemas.xmlsoap.org/ws/2004/09/transfer/Delete"

/-- The shell that a request speaks of. -/
def shell? : Request → Option String
  | create => none
  | command shell _ | receive shell _ | signal shell _ | delete shell => some shell

/-- The options of a request. -/
def options : Request → String
  | create => "<w:OptionSet><w:Option Name=\"WINRS_NOPROFILE\">TRUE</w:Option>" ++
      "<w:Option Name=\"WINRS_CODEPAGE\">" ++ toString codepage ++ "</w:Option></w:OptionSet>"
  | command .. => "<w:OptionSet><w:Option Name=\"WINRS_CONSOLEMODE_STDIN\">TRUE</w:Option>" ++
      "<w:Option Name=\"WINRS_SKIP_CMD_SHELL\">FALSE</w:Option></w:OptionSet>"
  | receive .. | signal .. | delete .. => ""

/-- The body of a request. -/
def body : Request → String
  | create => "<rsp:Shell><rsp:InputStreams>stdin</rsp:InputStreams>" ++
      "<rsp:OutputStreams>stdout stderr</rsp:OutputStreams></rsp:Shell>"
  | command _ line => "<rsp:CommandLine><rsp:Command>" ++ Markup.escape line ++
      "</rsp:Command></rsp:CommandLine>"
  | receive _ id => "<rsp:Receive><rsp:DesiredStream CommandId=\"" ++ Markup.escape id ++
      "\">stdout stderr</rsp:DesiredStream></rsp:Receive>"
  | signal _ id => "<rsp:Signal CommandId=\"" ++ Markup.escape id ++
      "\"><rsp:Code>http://schemas.microsoft.com/wbem/wsman/1/windows/shell/signal/terminate" ++
      "</rsp:Code></rsp:Signal>"
  | delete _ => ""

/-- The part of the header that selects a shell. -/
def selector (r : Request) : String :=
  match r.shell? with
  | none => ""
  | some shell => "<w:SelectorSet><w:Selector Name=\"ShellId\">" ++ Markup.escape shell ++
      "</w:Selector></w:SelectorSet>"

/-- The envelope of a request to an endpoint. -/
def envelope (endpoint messageId : String) (r : Request) : String :=
  "<?xml version=\"1.0\" encoding=\"UTF-8\"?>\n" ++
  "<s:Envelope xmlns:s=\"http://www.w3.org/2003/05/soap-envelope\"" ++
  " xmlns:a=\"http://schemas.xmlsoap.org/ws/2004/08/addressing\"" ++
  " xmlns:w=\"http://schemas.dmtf.org/wbem/wsman/1/wsman.xsd\"" ++
  " xmlns:rsp=\"http://schemas.microsoft.com/wbem/wsman/1/windows/shell\">\n" ++
  "  <s:Header>\n" ++
  "    <a:To>" ++ Markup.escape endpoint ++ "</a:To>\n" ++
  "    <w:ResourceURI s:mustUnderstand=\"true\">" ++
  "http://schemas.microsoft.com/wbem/wsman/1/windows/shell/cmd</w:ResourceURI>\n" ++
  "    <a:ReplyTo>\n" ++
  "      <a:Address s:mustUnderstand=\"true\">" ++
  "http://schemas.xmlsoap.org/ws/2004/08/addressing/role/anonymous</a:Address>\n" ++
  "    </a:ReplyTo>\n" ++
  "    <a:Action s:mustUnderstand=\"true\">" ++ r.action ++ "</a:Action>\n" ++
  "    <a:MessageID>uuid:" ++ messageId ++ "</a:MessageID>\n" ++
  "    <w:MaxEnvelopeSize s:mustUnderstand=\"true\">153600</w:MaxEnvelopeSize>\n" ++
  "    <w:OperationTimeout>PT60S</w:OperationTimeout>\n" ++
  "    " ++ r.selector ++ r.options ++ "\n" ++
  "  </s:Header>\n" ++
  "  <s:Body>" ++ r.body ++ "</s:Body>\n" ++
  "</s:Envelope>"

end Request

end Hostlink.WinRm
