-- SUMMARY: Reading and writing pods and definitions at the API server.
import NetAttach.Cluster.PodObject

/-!
# Stores at the API server

Every access goes to the server. To write a pod, its object is read, its version and
annotations are set to those of the pod, and it is put back as the client library writes
it again; the server refuses it if the version is not the present one. An object without
a name is never asked for.
-/

namespace NetAttach.Cluster

-- ---------------------------------------------------------------------------
-- Pods
-- ---------------------------------------------------------------------------

/-- What it means that a pod was not read. -/
def readFault (key : ObjectKey) : ApiFault → Fault
  | .refused code => if code = 404 then .notFound .pod key else .store (.podUnavailable key)
  | .unsent | .unreadable => .store (.podUnavailable key)

/-- What it means that a pod was not written. -/
def writeFault (key : ObjectKey) (version : Nat) : ApiFault → Fault
  | .refused code =>
    if code = 409 then .conflict key version
    else if code = 404 then .notFound .pod key
    else .store (.podNotWritten key)
  | .unsent | .unreadable => .store (.podNotWritten key)

/-- Get the object of a pod. -/
def getPodObject (key : ObjectKey) : Exchange (Except Fault PodObject) :=
  if key.name = "" then return .error (.store (.podUnavailable key))
  else do return (← request .get (podTarget key) none PodObject.read).mapError (readFault key)

/-- Read a pod. -/
def getPod (key : ObjectKey) : Exchange (Except Fault Pod) := do
  return (← getPodObject key).bind PodObject.pod

/-- Write a pod with a library that writes the documents it read in some way again. -/
def updatePodBy (rewrite : Json → Json) (pod : Pod) : Exchange (Except Fault Pod) := do
  match ← getPodObject pod.key with
  | .error e => return .error e
  | .ok object =>
    match ← request .put (podTarget pod.key) (some (object.replaced rewrite pod)) PodObject.read with
    | .error e => return .error (writeFault pod.key pod.version e)
    | .ok stored => return stored.pod

/-- Write a pod, with all the members that are known of one. -/
def updatePod (pod : Pod) : Exchange (Except Fault Pod) := updatePodBy Shape.pod.known pod

-- ---------------------------------------------------------------------------
-- Definitions
-- ---------------------------------------------------------------------------

/-- What it means that a definition was not read. -/
def definitionFault (key : ObjectKey) : ApiFault → Fault
  | .refused code =>
    if code = 404 then .notFound .definition key else .store (.definitionUnavailable key)
  | .unsent | .unreadable => .store (.definitionUnavailable key)

/-- The configuration in the object of a definition. It is empty if there is none. -/
def definitionConfig (j : Json) : String :=
  match (j.get? "spec").bind (·.get? "config") with
  | some (.str config) => config
  | _ => ""

/-- The configuration of a definition, of which the metadata have a shape and all other members are
kept as they are. -/
def readDefinitionConfig : Json → Option String
  | .obj ms => do
    let (metadata, others) := ms.partition fun m => m.1 == "metadata"
    guard (metadata.length ≤ 1 ∧ metadata.all fun m => Shape.metadata.fits (Json.maxDepth - 1) m.2)
    return definitionConfig (← Json.decode Json.keep (.obj others))
  | _ => none

/-- Read a definition. -/
def getDefinition (key : ObjectKey) : Exchange (Except Fault Definition) :=
  if key.name = "" then return .error (.store (.definitionUnavailable key))
  else do
    match ← request .get (definitionTarget key) none readDefinitionConfig with
    | .ok config => return .ok ⟨key.space, key.name, config⟩
    | .error e => return .error (definitionFault key e)

end NetAttach.Cluster
