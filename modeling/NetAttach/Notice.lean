-- SUMMARY: What the program reports while it runs, with level and text.
import NetAttach.Controller.Request
import NetAttach.Fault

/-!
# Notices

A notice reports something that does not end the program. `Notice.text` is the one
place where the wording stands.
-/

namespace NetAttach

/-- How serious a notice is. -/
inductive Level where
  | warn
  | error
deriving Repr, DecidableEq

def Level.render : Level → String
  | .warn => "warn"
  | .error => "error"

/-- Something to report. -/
inductive Notice where
  /-- The networks annotation of a pod is unreadable and selects nothing. -/
  | networksIgnored (pod : ObjectKey) (cause : Fault)
  | definitionUnavailable (network : String) (cause : Fault)
  /-- The status of a pod changed before it was written, and is written anew. -/
  | statusOverwritten (pod : ObjectKey) (retry limit : Nat)
  /-- The networks annotation before a change is unreadable. -/
  | oldNetworksUnreadable (pod : ObjectKey) (cause : Fault)
  /-- The networks annotation after a change is unreadable. -/
  | newNetworksUnreadable (pod : ObjectKey) (cause : Fault)
  | netnsUnknown (pod : ObjectKey) (cause : Fault)
  /-- A request failed and is tried again. -/
  | requeued (request : Request) (cause : Fault)
  /-- A request failed for the last time. -/
  | dropped (request : Request) (retries : Nat) (cause : Fault)
  /-- The watch missed updates. -/
  | watchLagged (missed : Nat)
  /-- A pod of the cluster is unreadable. -/
  | podSkipped (name : String) (cause : Fault)
  | watchFailed
  | eventNotPublished (reason : String) (pod : ObjectKey)
deriving DecidableEq

namespace Notice

def level : Notice → Level
  | networksIgnored .. | statusOverwritten .. | watchLagged _ | podSkipped .. | watchFailed
  | eventNotPublished .. => .warn
  | definitionUnavailable .. | oldNetworksUnreadable .. | newNetworksUnreadable ..
  | netnsUnknown .. | requeued .. | dropped .. => .error

/-- The wording of a notice. -/
def text : Notice → String
  | networksIgnored pod cause =>
    "ignoring the networks annotation of pod " ++ pod.render ++ ": " ++ cause.message
  | definitionUnavailable network cause =>
    "failed to access the network-attachment-definition " ++ network ++ ": " ++ cause.message
  | statusOverwritten pod retry limit =>
    "network-status of pod " ++ pod.render ++ " changed concurrently, retrying ("
      ++ toString retry ++ "/" ++ toString limit ++ ")"
  | oldNetworksUnreadable pod cause =>
    "failed to compute the network selection elements from the *old* pod " ++ pod.render ++ ": "
      ++ cause.message
  | newNetworksUnreadable pod cause =>
    "failed to compute the network selection elements from the *new* pod " ++ pod.render ++ ": "
      ++ cause.message
  | netnsUnknown pod cause =>
    "failed to figure out the network namespace of pod " ++ pod.render ++ ": " ++ cause.message
  | requeued request cause => "re-queued request [" ++ request.render ++ "]: " ++ cause.message
  | dropped request retries cause =>
    "dropping request [" ++ request.render ++ "] after " ++ toString retries ++ " retries: "
      ++ cause.message
  | watchLagged missed => "pod watch lagged, " ++ toString missed ++ " update(s) missed"
  | podSkipped name cause => "skipping pod " ++ name ++ ": " ++ cause.message
  | watchFailed => "pod watch error"
  | eventNotPublished reason pod =>
    "failed to publish event " ++ reason ++ " for pod " ++ pod.render

end Notice

end NetAttach
