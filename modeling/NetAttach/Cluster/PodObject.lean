-- SUMMARY: Pods as the API server writes them.
import NetAttach.Cluster.Api
import NetAttach.Cluster.Shape.Pod
import NetAttach.Fault
import NetAttach.Text.Digits

/-!
# Pod objects

The server writes a pod as an object with metadata, a specification and a status. All
members may be absent, but none may have another shape than a pod has. Versions are
texts, which have to hold a number.

An object that was read is not kept as a text. When it is written again, a client library
writes the members that it knows, in its own way; what it writes for a document is a
function of this document.
-/

namespace NetAttach.Cluster

/-- A pod of the server. -/
structure PodObject where
  space : Option String
  name : Option String
  /-- The start of the name that the server is to make up. -/
  generateName : Option String
  uid : Option String
  version : Option String
  annotations : Option (Dict String)
  containers : List Container
  /-- The document from which the object was read. -/
  document : Json
deriving DecidableEq

-- ---------------------------------------------------------------------------
-- Reading
-- ---------------------------------------------------------------------------

/-- One of the containers of a status. -/
def containerOf (j : Json) : Container :=
  { name := (j.textAt? "name").getD "", id := (j.textAt? "containerID").getD "" }

/-- A pod. -/
def PodObject.read (document : Json) : Option PodObject :=
  if Shape.pod.describes document then
    let metadata := (document.present? "metadata").getD (.obj [])
    let status := (document.present? "status").getD (.obj [])
    some {
      space := metadata.textAt? "namespace"
      name := metadata.textAt? "name"
      generateName := metadata.textAt? "generateName"
      uid := metadata.textAt? "uid"
      version := metadata.textAt? "resourceVersion"
      annotations := metadata.present? "annotations" >>= Json.decode (Json.dictOf Json.text)
      containers := (status.itemsAt "containerStatuses").map containerOf
      document }
  else none

namespace PodObject

/-- The name of a pod, or the start of it. -/
def anyName (o : PodObject) : String := (o.name.or o.generateName).getD ""

def key (o : PodObject) : ObjectKey := ⟨o.space.getD "", o.anyName⟩

/-- The version of a pod as a number. A pod without one has version zero. -/
def versionNumber (o : PodObject) : Except Fault Nat :=
  match o.version with
  | none => .ok 0
  | some text =>
    match Text.readNat? Json.maxWord text.toList with
    | some n => .ok n
    | none => .error (.store (.versionUnreadable o.key text))

/-- The pod that an object stands for. -/
def pod (o : PodObject) : Except Fault Pod := do
  let version ← o.versionNumber
  return {
    space := o.key.space
    name := o.key.name
    uid := o.uid.getD ""
    version
    annotations := o.annotations.getD ∅
    containers := o.containers }

/-- The object as it is written again, with the version and the annotations of a pod. -/
def replaced (rewrite : Json → Json) (o : PodObject) (pod : Pod) : Json :=
  let document := rewrite o.document
  let metadata := (document.get? "metadata").getD .null
  let metadata := setMember metadata "resourceVersion" (.str (toString pod.version))
  let metadata := setMember metadata "annotations"
    (.obj (pod.annotations.entries.map fun e => (e.1, .str e.2)))
  setMember document "metadata" metadata

end PodObject

end NetAttach.Cluster
