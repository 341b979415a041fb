-- SUMMARY: Pods and the names of namespaced objects, with their records.
import NetAttach.Text.Split
import NetAttach.Json.Reader
import NetAttach.Json.Printer

/-!
# Pods

A pod is known by its annotations, which say what networks it is to have and what
networks it has, and by its containers, of which the first leads to its network
namespace. The version of a pod grows with every accepted write.
-/

namespace NetAttach

-- ---------------------------------------------------------------------------
-- Names
-- ---------------------------------------------------------------------------

/-- The name of an object in a namespace. -/
structure ObjectKey where
  space : String
  name : String
deriving Repr, DecidableEq, Inhabited

/-- A name as `namespace/name`. -/
def ObjectKey.render (k : ObjectKey) : String := k.space ++ "/" ++ k.name

/-- Reads a name from a record. -/
def ObjectKey.read : Json.Reader ObjectKey := fun room j => do
  let f ← Json.recordFields ["namespace", "name"] room j
  return { space := ← f.required "namespace" Json.text, name := ← f.required "name" Json.text }

def ObjectKey.toJson (k : ObjectKey) : Json :=
  .record [Json.member "namespace" (.str k.space), Json.member "name" (.str k.name)]

-- ---------------------------------------------------------------------------
-- Containers
-- ---------------------------------------------------------------------------

/-- A container of a pod, whose identifier names its runtime first, as in `docker://<id>`. -/
structure Container where
  name : String
  id : String
deriving Repr, DecidableEq, Inhabited

/-- Reads a container from a record. -/
def Container.read : Json.Reader Container := fun room j => do
  let f ← Json.recordFields ["name", "containerId"] room j
  return { name := ← f.required "name" Json.text, id := ← f.default "containerId" Json.text "" }

def Container.toJson (c : Container) : Json :=
  .record [Json.member "name" (.str c.name), Json.member "containerId" (.str c.id)]

/-- What follows the first `//`, or the whole text without one. -/
def afterScheme : List Char → List Char
  | s => go s s
where
  /-- Look for `//` in the second text; the first is the answer without one. -/
  go (whole : List Char) : List Char → List Char
    | '/' :: '/' :: r => r
    | _ :: r => go whole r
    | [] => whole

-- ---------------------------------------------------------------------------
-- Pods
-- ---------------------------------------------------------------------------

/-- The annotation that lists the networks a pod is to have. -/
def networksKey : String := "k8s.v1.cni.cncf.io/networks"

/-- The annotation that lists the networks a pod has. -/
def statusKey : String := "k8s.v1.cni.cncf.io/network-status"

/-- A pod as the stores hold it. -/
structure Pod where
  space : String
  name : String
  uid : String
  version : Nat
  annotations : Dict String
  containers : List Container
deriving DecidableEq, Inhabited

namespace Pod

def key (p : Pod) : ObjectKey := ⟨p.space, p.name⟩

/-- The text of an annotation. -/
def annotated? (p : Pod) (name : String) : Option String := p.annotations.get? name

/-- The pod with one annotation set. -/
def annotate (p : Pod) (name text : String) : Pod :=
  { p with annotations := p.annotations.insert name text }

/-- The identifier of the first container without its runtime. All containers of a pod share one
network namespace. There is none while the container has not started. -/
def containerId? (p : Pod) : Option String :=
  match p.containers with
  | [] => none
  | c :: _ =>
    let id := String.ofList (afterScheme c.id.toList)
    if id = "" then none else some id

/-- Reads a pod from a record. -/
def read : Json.Reader Pod := fun room j => do
  let f ← Json.recordFields
    ["namespace", "name", "uid", "resourceVersion", "annotations", "containerStatuses"] room j
  return {
    space := ← f.required "namespace" Json.text
    name := ← f.required "name" Json.text
    uid := ← f.default "uid" Json.text ""
    version := ← f.default "resourceVersion" Json.word 0
    annotations := ← f.default "annotations" (Json.dictOf Json.text) ∅
    containers := ← f.default "containerStatuses" (Json.listOf Container.read) [] }

def toJson (p : Pod) : Json :=
  .record [
    Json.member "namespace" (.str p.space),
    Json.member "name" (.str p.name),
    Json.member "uid" (.str p.uid),
    Json.member "resourceVersion" (.int p.version),
    Json.member "annotations" (.obj (p.annotations.entries.map fun e => (e.1, .str e.2))),
    Json.member "containerStatuses" (.arr (p.containers.map Container.toJson))]

end Pod

/-- A change of a stored pod: the object before and after it. -/
structure PodUpdate where
  old : Pod
  new : Pod
deriving DecidableEq, Inhabited

-- ---------------------------------------------------------------------------
-- Network attachment definitions
-- ---------------------------------------------------------------------------

/-- A named configuration for the network plugin, which is handed on as it is. -/
structure Definition where
  space : String
  name : String
  config : String
deriving Repr, DecidableEq, Inhabited

/-- Reads a definition from a record. -/
def Definition.read : Json.Reader Definition := fun room j => do
  let f ← Json.recordFields ["namespace", "name", "config"] room j
  return {
    space := ← f.required "namespace" Json.text
    name := ← f.required "name" Json.text
    config := ← f.required "config" Json.text }

def Definition.toJson (d : Definition) : Json :=
  .record [
    Json.member "namespace" (.str d.space),
    Json.member "name" (.str d.name),
    Json.member "config" (.str d.config)]

end NetAttach
