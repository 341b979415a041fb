-- SUMMARY: Replies over HTTP: how an exchange ends, and what a peer sends.
import NetAttach.Text.Quoted
import NetAttach.Text.Utf8

/-!
# HTTP exchanges

A client sends one request over a fresh connection and reads one reply to its end.
Some statuses have no body, whatever the peer sends, and some replies only come before
the reply proper.
-/

namespace NetAttach.Network

/-- How an exchange ended. -/
inductive Exchanged where
  /-- Nobody listens. -/
  | unreachable
  /-- The connection ended before a reply, or what came is no reply. -/
  | broken
  /-- The connection ended within the body, or what came is no body. -/
  | cut
  | answered (status : Nat) (body : List UInt8)
deriving Repr, DecidableEq

-- ---------------------------------------------------------------------------
-- Statuses
-- ---------------------------------------------------------------------------

/-- A reply with this status ends with its head. -/
def hasNoBody (status : Nat) : Bool := status == 101 || status == 204 || status == 304

/-- A reply with this status comes before the reply proper. -/
def isInterim (status : Nat) : Bool := 100 ≤ status && status < 200 && status != 101

/-- The status reports a success. -/
def isSuccess (status : Nat) : Bool := 200 ≤ status && status < 300

-- ---------------------------------------------------------------------------
-- What a peer sends
-- ---------------------------------------------------------------------------

/-- How a peer tells where the body ends. -/
inductive Framing where
  /-- By its length. -/
  | length
  /-- By its length, of which the last byte never comes. -/
  | short
  | chunked
  /-- By the end of the connection. -/
  | close
deriving Repr, DecidableEq

/-- A reply of a peer, after which it closes the connection. -/
structure PeerReply where
  status : Nat
  framing : Framing
  body : List UInt8
deriving Repr, DecidableEq

/-- The bytes of an ASCII text. -/
def ascii (s : String) : List UInt8 := s.toList.map fun c => c.toNat.toUInt8

/-- A line of a head. -/
def headLine (s : String) : List UInt8 := ascii (s ++ "\r\n")

/-- A body as a chunk. -/
def chunkOf (body : List UInt8) : List UInt8 :=
  headLine (String.ofList (Text.hex body.length)) ++ body ++ headLine ""

/-- The bytes of a reply. -/
def PeerReply.bytes (r : PeerReply) : List UInt8 :=
  let lengthLine (n : Nat) := headLine ("Content-Length: " ++ toString n)
  headLine ("HTTP/1.1 " ++ toString r.status) ++
    match r.framing with
    | .length => lengthLine r.body.length ++ headLine "" ++ r.body
    | .short => lengthLine (r.body.length + 1) ++ headLine "" ++ r.body
    | .close => headLine "" ++ r.body
    | .chunked =>
      headLine "Transfer-Encoding: chunked" ++ headLine ""
        ++ (if r.body = [] then [] else chunkOf r.body) ++ chunkOf []

end NetAttach.Network
