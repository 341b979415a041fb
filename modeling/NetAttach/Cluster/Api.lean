-- SUMMARY: Requests to the API server of a cluster and its replies.
import NetAttach.Program
import NetAttach.Pod

/-!
# The API server

The server is asked with a method, a path and perhaps a document, and replies with a
status and a text. A status from 400 to 599 refuses the request; the text may then
hold another code, which counts.
-/

namespace NetAttach.Cluster

/-- What is done with the object at a path. -/
inductive Method where
  | get
  | put
  | post
deriving Repr, DecidableEq

def Method.render : Method → String
  | .get => "GET"
  | .put => "PUT"
  | .post => "POST"

/-- A request to the server. -/
structure ApiRequest where
  method : Method
  path : String
  body : Option Json
deriving DecidableEq

/-- A reply of the server. -/
structure ApiReply where
  status : Nat
  body : String
deriving Repr, DecidableEq

/-- A program of requests to the server. -/
abbrev Exchange : Type → Type := Program fun _ : ApiRequest => ApiReply

-- ---------------------------------------------------------------------------
-- Replies
-- ---------------------------------------------------------------------------

/-- Why a reply brings no document. -/
inductive ApiFault where
  /-- No request can be sent to the target. -/
  | unsent
  | refused (code : Nat)
  | unreadable
deriving Repr, DecidableEq

/-- The code inside the description of an error. -/
def readErrorCode : Json.Reader Nat := fun room j => do
  let f ← Json.recordFields ["status", "message", "reason", "code"] room j
  let _ ← f.required "status" Json.text
  let _ ← f.default "message" Json.text ""
  let _ ← f.default "reason" Json.text ""
  f.required "code" (Json.natUpTo 65535)

/-- The status refuses the request. -/
def ApiReply.refuses (r : ApiReply) : Bool := 400 ≤ r.status && r.status < 600

/-- The document that a reply brings. -/
def ApiReply.document (r : ApiReply) : Except ApiFault Json :=
  if r.refuses then .error (.refused ((Json.decodeText readErrorCode r.body).getD r.status))
  else
    match Json.parse r.body with
    | some j => .ok j
    | none => .error .unreadable

/-- The object that a reply brings. -/
def ApiReply.object {α : Type} (r : ApiReply) (read : Json → Option α) : Except ApiFault α :=
  r.document.bind fun j =>
    match read j with
    | some a => .ok a
    | none => .error .unreadable

-- ---------------------------------------------------------------------------
-- Targets
-- ---------------------------------------------------------------------------

/-- A character that may stand in a path as it is. -/
def isPathChar (c : Char) : Bool :=
  0x20 < c.toNat && c.toNat ≠ 0x7F && !("#<>?`".contains c)

/-- A character that may stand in a query as it is. -/
def isQueryChar (c : Char) : Bool :=
  0x20 < c.toNat && c.toNat ≠ 0x7F && !("\x22#<>".contains c)

/-- No target of a request has more bytes. -/
def maxTarget : Nat := 65534

/-- The path with which a request for a target arrives. A query ends it, and what follows a number
sign is not looked at; a target with other characters than a target may have is never sent. -/
def arrivingPath? (target : String) : Option String :=
  let cs := target.toList
  let path := cs.takeWhile isPathChar
  let queryIsFine : Bool :=
    match cs.dropWhile isPathChar with
    | [] | '#' :: _ => true
    | '?' :: query => ["", "#"].contains (String.ofList ((query.dropWhile isQueryChar).take 1))
    | _ :: _ => false
  if target.utf8ByteSize ≤ maxTarget ∧ queryIsFine then some (String.ofList path) else none

/-- The target of the pods of all namespaces. -/
def allPodsPath : String := "/api/v1/pods"

def podTarget (key : ObjectKey) : String :=
  "/api/v1/namespaces/" ++ key.space ++ "/pods/" ++ key.name

def definitionTarget (key : ObjectKey) : String :=
  "/apis/k8s.cni.cncf.io/v1/namespaces/" ++ key.space ++ "/networkattachmentdefinitions/" ++ key.name

def eventsTarget (space : String) : String :=
  "/apis/events.k8s.io/v1/namespaces/" ++ space ++ "/events"

-- ---------------------------------------------------------------------------
-- Requests
-- ---------------------------------------------------------------------------

/-- Send a request to a target and read the object that the reply brings. With a document goes a
query, which is empty. -/
def request {α : Type} (method : Method) (target : String) (document : Option Json)
    (read : Json → Option α) : Exchange (Except ApiFault α) :=
  match arrivingPath? (if document.isSome then target ++ "?" else target) with
  | none => return .error .unsent
  | some path => do
    let reply ← Program.ask (⟨method, path, document⟩ : ApiRequest)
    return ApiReply.object reply read

-- ---------------------------------------------------------------------------
-- Documents
-- ---------------------------------------------------------------------------

/-- Set a member of an object, and keep the others. -/
def setMember (j : Json) (name : String) (v : Json) : Json :=
  match j with
  | .obj ms => .obj (ms.filter (fun m => m.1 ≠ name) ++ [(name, v)])
  | _ => .obj [(name, v)]

end NetAttach.Cluster
