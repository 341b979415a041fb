-- SUMMARY: Turning a change of a pod into requests.
import NetAttach.Controller.Control
import NetAttach.Selection.Annotation
import NetAttach.Store.Feed

/-!
# The watch

When the networks annotation of a pod changes, the selections that are new are
requested to be attached, and those that are gone are requested to be detached. A
change from or to an annotation that is unreadable is passed over.
-/

namespace NetAttach

/-- The network namespace of the first container of a pod, which is unknown while there is none. -/
def podNetns (pod : Pod) : Control (Except Fault String) :=
  match pod.containerId? with
  | some id => ask (.getNetns id)
  | none => return .ok ""

/-- Request a change of some networks, if there are any. -/
def requestChange (pod : ObjectKey) (direction : Direction) (networks : List Selection)
    (netns : String) : Control Unit :=
  if networks.isEmpty then return () else ask (.enqueue ⟨pod, direction, networks, netns⟩)

/-- Turn one change of a pod into requests. -/
def handleUpdate (old new : Pod) : Control Unit := do
  if old.annotations = new.annotations then return ()
  match Selection.ofPod old, Selection.ofPod new with
  | .error e, _ => ask (.notify (.oldNetworksUnreadable new.key (.invalid e)))
  | .ok _, .error e => ask (.notify (.newNetworksUnreadable new.key (.invalid e)))
  | .ok before, .ok after =>
    let added := Selection.notIn after before
    let removed := Selection.notIn before after
    if added.isEmpty && removed.isEmpty then return ()
    match ← podNetns new with
    | .error e => ask (.notify (.netnsUnknown new.key e))
    | .ok netns =>
      requestChange new.key .add added netns
      requestChange new.key .remove removed netns

/-- What the watch does with what it receives. -/
def handleReceipt : Receipt → Control Unit
  | .update u => handleUpdate u.old u.new
  | .lagged missed => ask (.notify (.watchLagged missed))

end NetAttach
