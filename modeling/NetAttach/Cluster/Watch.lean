-- SUMMARY: Following the pods of a cluster: what a watch reports, and how the cache follows it.
import NetAttach.Cluster.PodObject
import NetAttach.Store.PodCache
import NetAttach.Notice

/-!
# The watch of a cluster

A watch lists all pods and then follows their changes, and starts anew with a list
when the server says that it has forgotten where the watch was. The cache observes
every pod that is listed or changed and removes every pod that is deleted.
-/

namespace NetAttach.Cluster

/-- What a watch reports. -/
inductive WatchEvent where
  /-- A list begins. -/
  | listing
  | listed (object : PodObject)
  /-- The list is complete. -/
  | synced
  | applied (object : PodObject)
  | deleted (object : PodObject)
  | failed

-- ---------------------------------------------------------------------------
-- The cache
-- ---------------------------------------------------------------------------

/-- Observe a pod, or report that it is unreadable. -/
def observe (cache : PodCache) (object : PodObject) : PodCache × List Notice :=
  match object.pod with
  | .ok pod => (cache.observe pod, [])
  | .error e => (cache, [.podSkipped object.anyName e])

/-- Follow one report of the watch. -/
def follow (cache : PodCache) : WatchEvent → PodCache × List Notice
  | .listed object | .applied object => observe cache object
  | .deleted object => (cache.remove object.key, [])
  | .failed => (cache, [.watchFailed])
  | .listing | .synced => (cache, [])

/-- Follow the reports of the watch. -/
def followAll (cache : PodCache) : List WatchEvent → PodCache × List Notice
  | [] => (cache, [])
  | e :: es =>
    let (cache, first) := follow cache e
    let (cache, others) := followAll cache es
    (cache, first ++ others)

-- ---------------------------------------------------------------------------
-- What the server sends
-- ---------------------------------------------------------------------------

/-- A change that the server sends. -/
structure Change where
  kind : String
  object : Json

/-- What the server sends for one list and the watch after it. -/
inductive Round where
  | answered (pods : List Json) (changes : List Change)
  /-- The list is refused. -/
  | refused (code : Nat)

/-- The two requests of a watch. -/
inductive WatchRequest where
  | list
  | watch
deriving Repr, DecidableEq

def WatchRequest.render : WatchRequest → String
  | .list => "list"
  | .watch => "watch"

/-- The code with which the server says that it has forgotten where the watch was. -/
def goneCode : Nat := 410

/-- The version in the metadata of an object that only tells up to which version all changes were
told. -/
def readProgress : Json.Reader String := fun room j => do
  let f ← Json.recordFields ["resourceVersion", "annotations"] room j
  let _ ← f.default "annotations" (Json.dictOf Json.text) ∅
  f.required "resourceVersion" Json.text

/-- The version up to which the server has told all changes. -/
def readBookmark : Json → Option String
  | .obj ms => do
    let f ← Json.objectFields ["apiVersion", "kind", "metadata"] (Json.maxDepth - 1) ms
    let _ ← f.required "apiVersion" Json.text
    let _ ← f.required "kind" Json.text
    f.required "metadata" readProgress
  | _ => none

/-- The report of a change, and whether the watch goes on after it. It does not know where it is after
a pod without a version. -/
def Change.report (c : Change) : Option WatchEvent × Bool :=
  let of (event : PodObject → WatchEvent) : Option WatchEvent × Bool :=
    match PodObject.read c.object with
    | some object => if object.version.getD "" = "" then (some .failed, false)
      else (some (event object), true)
    | none => (some .failed, true)
  match c.kind with
  | "ADDED" | "MODIFIED" => of .applied
  | "DELETED" => of .deleted
  | "BOOKMARK" => (if (readBookmark c.object).isSome then none else some .failed, true)
  | "ERROR" => (some .failed, Json.decode readErrorCode c.object != some goneCode)
  | _ => (some .failed, true)

/-- The reports of changes, up to the one that ends the watch. -/
def reports : List Change → List WatchEvent
  | [] => []
  | c :: cs =>
    let (event, goesOn) := c.report
    event.toList ++ if goesOn then reports cs else []

/-- What the watch reports in one round, and its requests. -/
def Round.reports : Round → List WatchEvent × List WatchRequest
  | .refused _ => ([.listing, .failed], [.list])
  | .answered pods changes =>
    match pods.mapM PodObject.read with
    | none => ([.listing, .failed], [.list])
    | some objects =>
      (.listing :: objects.map .listed ++ .synced :: Cluster.reports changes, [.list, .watch])

end NetAttach.Cluster
