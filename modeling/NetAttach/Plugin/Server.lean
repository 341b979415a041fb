-- SUMMARY: The wire form of plugin calls and of the answers of the plugin server.
import NetAttach.Plugin.Call
import NetAttach.Plugin.Result
import NetAttach.Network.Http
import NetAttach.Text.Base64
import NetAttach.Text.Blank

/-!
# The plugin server

A call is posted as a document with the environment of the plugin, the configuration
in base64, and the wanted addresses if there are any. A blank answer stands for a
command without a result.
-/

namespace NetAttach.Plugin

-- ---------------------------------------------------------------------------
-- Calls
-- ---------------------------------------------------------------------------

/-- The path that calls are posted to. -/
def endpoint : String := "/delegate"

/-- The first line of a posted call. -/
def requestLine : String := "POST " ++ endpoint ++ " HTTP/1.1"

/-- The wanted addresses of a call. -/
def Call.wanted (c : Call) : Json :=
  .record [
    Json.memberUnless c.ips.isEmpty "ipRequest" (.texts c.ips),
    Json.member? "macRequest" (c.mac.map .str)]

/-- The document that is posted for a call. -/
def Call.body (c : Call) : Json :=
  .record [
    Json.member "env" (.obj (c.env.entries.map fun e => (e.1, .str e.2))),
    Json.member "config" (.str (String.ofList (Text.Base64.encode c.config))),
    Json.memberUnless (c.ips.isEmpty && c.mac.isNone) "interfaceAttributes" c.wanted]

/-- The bytes that are posted for a call. -/
def Call.posted (c : Call) : List UInt8 := Text.Utf8.encode c.body.render

-- ---------------------------------------------------------------------------
-- Answers
-- ---------------------------------------------------------------------------

/-- A byte that is blank: a space, a tab, a line feed, a form feed or a carriage return. -/
def isBlankByte (b : UInt8) : Bool :=
  b == 32 || b == 9 || b == 10 || b == 12 || b == 13

/-- The response in the body of an answer. -/
def readResponse (body : List UInt8) : Except DelegateFault Response :=
  if body.all isBlankByte then .ok { result := none }
  else
    match Json.parseBytes body >>= Json.decode Response.read with
    | some r => .ok r
    | none => .error .answerUnreadable

/-- What comes of a call. -/
def Call.outcome (c : Call) : Network.Exchanged → Except DelegateFault Response
  | .unreachable => .error .unreachable
  | .broken => .error .exchangeFailed
  | .cut => .error .answerCut
  | .answered status body =>
    if Network.isSuccess status then readResponse body
    else
      let text := Text.trimChars (Text.Utf8.decodeLenient body)
      .error (.refused c.command status (String.ofList text))

end NetAttach.Plugin
