-- SUMMARY: Working off a request: attach or detach its networks one after the other.
import NetAttach.Controller.Status
import NetAttach.Selection.Annotation

/-!
# Reconciliation

A request is worked off network by network, up to the first failure. A network whose
attachment is recorded is not attached again, and one without is not detached, so that
a request can be replayed after it was done in part.
-/

namespace NetAttach

/-- The selections of a pod as it is. An annotation that is unreadable selects nothing. -/
def currentSelections (pod : Pod) : Control (List Selection) :=
  match Selection.ofPod pod with
  | .ok selections => return selections
  | .error e => do
    ask (.notify (.networksIgnored pod.key (.invalid e)))
    return []

/-- The attachment that a selection refers to on a pod as it is. -/
def findAttachment (pod : Pod) (recorded : List Attachment) (network : Selection) :
    Control (Option Attachment) := do
  return Attachment.find? recorded network (← currentSelections pod)

/-- The definition of a network. Its absence is reported. -/
def getDefinition (network : Selection) : Attempt Definition := do
  match ← Attempt.outcome (ask (.getDefinition ⟨network.space, network.name⟩)) with
  | .ok definition => return definition
  | .error cause =>
    ask (.notify (.definitionUnavailable network.network cause))
    throw cause

/-- The call for one network of a request. -/
def pluginCall (command : Command) (request : Request) (pod : Pod) (network : Selection)
    (interface : String) (definition : Definition) : Plugin.Call :=
  { command, interface
    containerId := pod.containerId?.getD ""
    netns := request.netns
    podSpace := pod.space
    podName := pod.name
    podUid := pod.uid
    config := Text.Utf8.encode definition.config
    ips := network.ips
    mac := network.mac }

-- ---------------------------------------------------------------------------
-- Attaching
-- ---------------------------------------------------------------------------

/-- The text of the event after a network was attached. -/
def addedText (pod : ObjectKey) (interface network : String) : String :=
  "pod [" ++ pod.render ++ "]: added interface " ++ interface ++ " to network: " ++ network

/-- Record a new attachment, unless the network has one already. -/
def recordNew (network : Selection) (attached : Attachment) : StatusChange := fun pod recorded => do
  match ← findAttachment pod recorded network with
  | some _ => return none
  | none => return some (← Attempt.ofExcept (Attachment.record recorded attached))

/-- Attach a network to a pod, unless it is attached. -/
def attach (retries : Nat) (request : Request) (pod : Pod) (network : Selection) : Attempt Pod := do
  let recorded ← Attempt.ofExcept (Attachment.ofPod pod)
  if (← findAttachment pod recorded network).isSome then return pod
  match network.interface?.bind fun i => recorded.find? (·.interface == i) with
  | some taken =>
    throw (.invalid (.interfaceTaken taken.interface request.pod taken.network))
  | none =>
    let definition ← getDefinition network
    let call := pluginCall .add request pod network (network.interface?.getD "") definition
    let response ← Attempt.reply (ask (.invoke call))
    match response.result with
    | none => throw (.delegate (.nothingAdded network.key))
    | some result =>
      let attached := Attachment.ofResult network result
      let pod ← updateStatus retries (recordNew network attached) retries pod
      ask (.emit ⟨request.pod, "AddedInterface",
        addedText request.pod attached.interface network.name⟩)
      return pod

-- ---------------------------------------------------------------------------
-- Detaching
-- ---------------------------------------------------------------------------

/-- The text of the event after a network was detached. -/
def removedText (pod : ObjectKey) (interface network : String) : String :=
  "pod [" ++ pod.render ++ "]: removed interface " ++ interface ++ " from network: " ++ network

/-- Drop an attachment, if it is still recorded. -/
def dropOld (attached : Attachment) : StatusChange := fun _ recorded =>
  return Attachment.drop? recorded attached

/-- Detach a network from a pod, if it is attached. It is detached from the recorded interface. -/
def detach (retries : Nat) (request : Request) (pod : Pod) (network : Selection) : Attempt Pod := do
  let recorded ← Attempt.ofExcept (Attachment.ofPod pod)
  match ← findAttachment pod recorded network with
  | none => return pod
  | some attached =>
    let definition ← getDefinition network
    let call := pluginCall .del request pod network attached.interface definition
    let _ ← Attempt.reply (ask (.invoke call))
    let pod ← updateStatus retries (dropOld attached) retries pod
    ask (.emit ⟨request.pod, "RemovedInterface",
      removedText request.pod attached.interface network.name⟩)
    return pod

-- ---------------------------------------------------------------------------
-- Requests
-- ---------------------------------------------------------------------------

/-- Work off networks of a request one after the other, each on the pod that the one before left. -/
def workOff (retries : Nat) (request : Request) : List Selection → Pod → Attempt Pod
  | [], pod => return pod
  | network :: networks, pod => do
    let pod ← match request.direction with
      | .add => attach retries request pod network
      | .remove => detach retries request pod network
    workOff retries request networks pod

/-- Work off a request. -/
def reconcile (retries : Nat) (request : Request) : Attempt Unit := do
  let pod ← Attempt.reply (ask (.getPod request.pod))
  let _ ← workOff retries request request.networks pod

end NetAttach
