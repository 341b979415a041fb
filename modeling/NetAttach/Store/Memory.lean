-- SUMMARY: Stores of pods and of definitions in memory.
import NetAttach.Keyed
import NetAttach.Fault
import NetAttach.Store.Feed

/-!
# Stores in memory

The versions of a pod are 1, 2, 3 and so on, in the order of the accepted writes. A
write is accepted if it brings the stored version; a write from outside always is.
Every write to a pod that was there is announced.
-/

namespace NetAttach

-- ---------------------------------------------------------------------------
-- Pods
-- ---------------------------------------------------------------------------

/-- A store of pods. -/
structure PodStore where
  pods : Keyed ObjectKey Pod
  feed : Feed

namespace PodStore

/-- The number of updates that are kept for subscribers. -/
def feedCapacity : Nat := 128

def empty : PodStore := ⟨.empty, .ofCapacity feedCapacity⟩

/-- The stored pod. -/
def get (s : PodStore) (key : ObjectKey) : Except Fault Pod :=
  match s.pods.get? key with
  | some pod => .ok pod
  | none => .error (.notFound .pod key)

/-- Put a pod in the place of an older one. -/
def replace (s : PodStore) (old new : Pod) : PodStore :=
  { pods := s.pods.put new.key new, feed := s.feed.send ⟨old, new⟩ }

/-- Write a pod from outside, whatever its version. -/
def apply (s : PodStore) (pod : Pod) : Pod × PodStore :=
  match s.pods.get? pod.key with
  | some old =>
    let new := { pod with version := old.version + 1 }
    (new, s.replace old new)
  | none =>
    let new := { pod with version := 1 }
    (new, { s with pods := s.pods.put new.key new })

/-- Write a pod if it brings the version that is stored. -/
def update (s : PodStore) (pod : Pod) : Except Fault Pod × PodStore :=
  match s.pods.get? pod.key with
  | none => (.error (.notFound .pod pod.key), s)
  | some old =>
    if old.version = pod.version then
      let new := { pod with version := pod.version + 1 }
      (.ok new, s.replace old new)
    else (.error (.conflict pod.key pod.version), s)

end PodStore

-- ---------------------------------------------------------------------------
-- Definitions
-- ---------------------------------------------------------------------------

/-- A store of definitions. -/
structure DefinitionStore where
  definitions : Keyed ObjectKey Definition
deriving DecidableEq

namespace DefinitionStore

def empty : DefinitionStore := ⟨.empty⟩

def insert (s : DefinitionStore) (d : Definition) : DefinitionStore :=
  ⟨s.definitions.put ⟨d.space, d.name⟩ d⟩

/-- The definition with a name. -/
def get (s : DefinitionStore) (key : ObjectKey) : Except Fault Definition :=
  match s.definitions.get? key with
  | some d => .ok d
  | none => .error (.notFound .definition key)

end DefinitionStore

end NetAttach
