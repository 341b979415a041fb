-- SUMMARY: A work queue with getters that wait for items, and the signals that wake them.
import NetAttach.Queue.WorkQueue

/-!
# Shared queues

A getter first registers for signals, then looks at the queue, and sleeps if there is
nothing to get; after a signal it starts anew. An item that starts to wait signals one
getter, the one that registered first of those without a signal; without any such
getter the signal is kept as a permit for the next that registers. Shutting down
signals all. A getter that leaves passes the signal on if it was chosen for it.
-/

namespace NetAttach

/-- How a getter came by its signal. -/
inductive Signal where
  /-- It took the permit when it registered. -/
  | permit
  /-- It was chosen for an item. -/
  | chosen
  /-- All getters were signalled. -/
  | everyone
deriving Repr, DecidableEq

/-- A registered getter. -/
structure Getter where
  id : Nat
  /-- It has looked at the queue in vain. -/
  checked : Bool
  signal : Option Signal
deriving Repr, DecidableEq

/-- The getter sleeps. -/
def Getter.asleep (g : Getter) : Bool := g.checked && g.signal.isNone

/-- The getter was woken and has to look again. -/
def Getter.woken (g : Getter) : Bool := g.checked && g.signal.isSome

/-- What a getter gets: an item, or nothing because the queue is shut down and empty. -/
inductive Delivery (α : Type) where
  | item (x : α)
  | closed
deriving Repr, DecidableEq

/-- A queue and the getters at it, in the order in which they registered. -/
structure SharedQueue (α : Type) where
  queue : WorkQueue α
  permit : Bool
  getters : List Getter
deriving Repr, DecidableEq

namespace SharedQueue

variable {α : Type} [DecidableEq α]

def empty : SharedQueue α := ⟨.empty, false, []⟩

-- ---------------------------------------------------------------------------
-- Signals
-- ---------------------------------------------------------------------------

/-- Signal the first getter that has no signal, if there is one. -/
def choose? : List Getter → Option (List Getter)
  | [] => none
  | g :: gs =>
    match g.signal with
    | none => some ({ g with signal := some .chosen } :: gs)
    | some _ => (choose? gs).map (g :: ·)

/-- Signal one getter, or leave a permit. -/
def notifyOne (q : SharedQueue α) : SharedQueue α :=
  match choose? q.getters with
  | some gs => { q with getters := gs }
  | none => { q with permit := true }

/-- Signal all getters. -/
def notifyAll (q : SharedQueue α) : SharedQueue α :=
  { q with getters := q.getters.map fun g =>
      { g with signal := some (g.signal.getD .everyone) } }

-- ---------------------------------------------------------------------------
-- The side of the items
-- ---------------------------------------------------------------------------

/-- Add an item. -/
def add (q : SharedQueue α) (x : α) : SharedQueue α :=
  let r := { q with queue := q.queue.add x }
  if q.queue.enqueues x then r.notifyOne else r

/-- Mark an item as done. -/
def done (q : SharedQueue α) (x : α) : SharedQueue α :=
  let r := { q with queue := q.queue.done x }
  if q.queue.releases x then r.notifyOne else r

/-- Accept no more items. -/
def shutDown (q : SharedQueue α) : SharedQueue α :=
  { q with queue := q.queue.shutDown }.notifyAll

-- ---------------------------------------------------------------------------
-- The side of the getters
-- ---------------------------------------------------------------------------

/-- The getter with a number. -/
def getter? (q : SharedQueue α) (i : Nat) : Option Getter := q.getters.find? (·.id == i)

/-- Take a getter off the list. -/
def drop (q : SharedQueue α) (i : Nat) : SharedQueue α :=
  { q with getters := q.getters.eraseP (·.id == i) }

/-- Take a getter off the list, and signal another if it was chosen. -/
def leave (q : SharedQueue α) (i : Nat) : SharedQueue α :=
  match q.getter? i with
  | some g => if g.signal = some .chosen then (q.drop i).notifyOne else q.drop i
  | none => q

/-- A getter registers, and takes the permit if there is one. -/
def register (q : SharedQueue α) (i : Nat) : SharedQueue α :=
  if q.permit then { q with permit := false, getters := q.getters ++ [⟨i, false, some .permit⟩] }
  else { q with getters := q.getters ++ [⟨i, false, none⟩] }

/-- A registered getter looks at the queue, and leaves with what it gets. -/
def check (q : SharedQueue α) (i : Nat) : Option (Delivery α) × SharedQueue α :=
  match q.queue.take? with
  | some (x, rest) => (some (.item x), { q with queue := rest }.leave i)
  | none =>
    if q.queue.closed then (some .closed, q.leave i)
    else
      (none, { q with getters := q.getters.map fun g =>
        if g.id = i then { g with checked := true } else g })

/-- The getter is woken. -/
def isWoken (q : SharedQueue α) (i : Nat) : Bool := (q.getter? i).any (·.woken)

/-- A getter starts anew, and goes on until it gets something or sleeps. The permit is the only
signal that it can find at once, so that it looks at most twice. -/
def seek (q : SharedQueue α) (i : Nat) : Option (Delivery α) × SharedQueue α :=
  let (first, q) := ((q.drop i).register i).check i
  if q.isWoken i then ((q.drop i).register i).check i else (first, q)

/-- A getter tries once, and leaves if it gets nothing. -/
def tryOnce (q : SharedQueue α) (i : Nat) : Option (Delivery α) × SharedQueue α :=
  let (got, q) := q.seek i
  (got, q.leave i)

/-- All getters that are woken go on, in the order in which they registered. -/
def settle (q : SharedQueue α) : List (Nat × Delivery α) × SharedQueue α :=
  (q.getters.filter (·.woken)).foldl
    (fun (found, q) g =>
      match q.seek g.id with
      | (some d, q) => (found ++ [(g.id, d)], q)
      | (none, q) => (found, q))
    ([], q)

end SharedQueue

end NetAttach
