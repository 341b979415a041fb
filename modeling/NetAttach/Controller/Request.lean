-- SUMMARY: Requests to attach or detach networks of one pod.
import NetAttach.Selection.Basic
import NetAttach.Pod
import NetAttach.Text.Quoted

/-!
# Requests

A request is made when an annotation changes, and is replayed as it is on every try.
Two requests with the same content are still two: they are told apart by the number
under which they were made.
-/

namespace NetAttach

/-- What a request does with its networks. -/
inductive Direction where
  | add
  | remove
deriving Repr, DecidableEq

def Direction.render : Direction → String
  | .add => "add"
  | .remove => "remove"

/-- Networks to attach to a pod, or to detach from it. -/
structure Request where
  pod : ObjectKey
  direction : Direction
  /-- The networks, which are worked off in order up to the first failure. -/
  networks : List Selection
  /-- The network namespace of the pod, as a path. -/
  netns : String
deriving DecidableEq

/-- A request and the number under which it was made. No two tickets have one number. -/
structure Ticket where
  number : Nat
  request : Request
deriving DecidableEq

/-- A request as messages name it. -/
def Request.render (r : Request) : String :=
  r.direction.render ++ " [" ++ ", ".intercalate (r.networks.map fun s => s.key.render)
    ++ "] for pod " ++ r.pod.render ++ " (netns " ++ Text.quoted r.netns ++ ")"

/-- Two requests have the same content. -/
def Request.sameContent (a b : Request) : Bool :=
  a.pod == b.pod && a.direction == b.direction && a.netns == b.netns
    && a.networks.length == b.networks.length
    && (a.networks.zip b.networks).all fun p => p.1.sameValue p.2

end NetAttach
