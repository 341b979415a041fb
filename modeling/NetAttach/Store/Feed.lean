-- SUMMARY: The feed of pod updates, of which every subscriber gets those since it subscribed, unless it lags.
import NetAttach.Pod

/-!
# Feeds

A store announces its updates to subscribers. A feed keeps the last updates only, up
to its capacity. A subscriber that missed more is told how many are lost, and goes on
with the oldest that is kept.
-/

namespace NetAttach

/-- The updates of a store. -/
structure Feed where
  capacity : Nat
  /-- The number of updates so far. -/
  sent : Nat
  /-- The last updates, newest first. -/
  kept : List PodUpdate
deriving DecidableEq

/-- What a subscriber receives. -/
inductive Receipt where
  | update (u : PodUpdate)
  /-- So many updates are lost to the subscriber. -/
  | lagged (missed : Nat)
deriving DecidableEq

namespace Feed

/-- A feed without updates. -/
def ofCapacity (capacity : Nat) : Feed := ⟨capacity, 0, []⟩

/-- Announce an update. -/
def send (f : Feed) (u : PodUpdate) : Feed :=
  { f with sent := f.sent + 1, kept := (u :: f.kept).take f.capacity }

/-- A new subscriber gets what is sent from now on. Its place is the number of updates before. -/
def subscribe (f : Feed) : Nat := f.sent

/-- The next receipt of a subscriber and its place afterwards. -/
def receive? (f : Feed) (place : Nat) : Option (Receipt × Nat) :=
  let behind := f.sent - place
  if behind > f.capacity then some (.lagged (behind - f.capacity), f.sent - f.capacity)
  else if behind = 0 then none
  else f.kept[behind - 1]?.map fun u => (.update u, place + 1)

/-- All that a subscriber has to receive. -/
def pending (f : Feed) (place : Nat) : List Receipt :=
  let behind := f.sent - place
  let updates := ((f.kept.take behind).reverse).map .update
  if behind > f.capacity then .lagged (behind - f.capacity) :: updates else updates

end Feed

end NetAttach
