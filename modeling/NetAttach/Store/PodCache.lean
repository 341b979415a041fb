-- SUMMARY: The last observed state of the pods of a cluster.
import NetAttach.Keyed
import NetAttach.Store.Feed

/-!
# Pod caches

A cache learns of pods from outside. A pod whose version differs from the one that
was known is announced as an update of it; a pod that was not known is not.
-/

namespace NetAttach

/-- The pods as they were last observed. -/
structure PodCache where
  pods : Keyed ObjectKey Pod
  feed : Feed

namespace PodCache

/-- The number of updates that are kept for subscribers. -/
def feedCapacity : Nat := 1024

def empty : PodCache := ⟨.empty, .ofCapacity feedCapacity⟩

/-- Learn of the present state of a pod. -/
def observe (c : PodCache) (pod : Pod) : PodCache :=
  let pods := c.pods.put pod.key pod
  match c.pods.get? pod.key with
  | some old =>
    if old.version = pod.version then { c with pods } else { pods, feed := c.feed.send ⟨old, pod⟩ }
  | none => { c with pods }

/-- Learn that a pod is gone. -/
def remove (c : PodCache) (key : ObjectKey) : PodCache := { c with pods := c.pods.erase key }

end PodCache

end NetAttach
