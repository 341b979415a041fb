-- SUMMARY: The work queue: every item waits at most once, and is not delivered again while it is processed.

/-!
# Work queues

An item is *dirty* from the moment it is added until it is delivered, and
*processing* from then until it is marked as done. A dirty item that is being
processed is held back, and starts to wait when its processing is done. Adding a
dirty item changes nothing. A queue that is shut down accepts no items and delivers
those that it has.
-/

namespace NetAttach

/-- A queue of items. -/
structure WorkQueue (α : Type) where
  /-- The items to deliver, oldest first. -/
  waiting : List α
  /-- The items that were added and not delivered since. -/
  dirty : List α
  /-- The items that were delivered and not marked as done since. -/
  processing : List α
  closed : Bool
deriving Repr, DecidableEq

namespace WorkQueue

variable {α : Type} [DecidableEq α]

/-- The open queue without items. -/
def empty : WorkQueue α := ⟨[], [], [], false⟩

/-- The number of items to deliver. -/
def size (q : WorkQueue α) : Nat := q.waiting.length

-- ---------------------------------------------------------------------------
-- Operations
-- ---------------------------------------------------------------------------

/-- The item would be taken in if it were added. -/
def accepts (q : WorkQueue α) (x : α) : Bool := !q.closed && !q.dirty.contains x

/-- The item would start to wait if it were added. -/
def enqueues (q : WorkQueue α) (x : α) : Bool := q.accepts x && !q.processing.contains x

/-- Add an item. -/
def add (q : WorkQueue α) (x : α) : WorkQueue α :=
  if q.accepts x then
    { q with
      dirty := x :: q.dirty
      waiting := if q.processing.contains x then q.waiting else q.waiting ++ [x] }
  else q

/-- Deliver the oldest item that waits. -/
def take? (q : WorkQueue α) : Option (α × WorkQueue α) :=
  match q.waiting with
  | [] => none
  | x :: r =>
    some (x, { q with
      waiting := r, dirty := q.dirty.erase x, processing := q.processing.insert x })

/-- The item would start to wait if it were marked as done. -/
def releases (q : WorkQueue α) (x : α) : Bool := q.dirty.contains x

/-- Mark an item as done. If it was added meanwhile, it starts to wait. -/
def done (q : WorkQueue α) (x : α) : WorkQueue α :=
  { q with
    processing := q.processing.erase x
    waiting := if q.releases x then q.waiting ++ [x] else q.waiting }

/-- Accept no more items. -/
def shutDown (q : WorkQueue α) : WorkQueue α := { q with closed := true }

end WorkQueue

end NetAttach
