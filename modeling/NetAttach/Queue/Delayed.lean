-- SUMMARY: Queues with a limiter, and with adds that take place after a delay.
import NetAttach.Queue.Shared
import NetAttach.Queue.Limiter
import NetAttach.Queue.Agenda

/-!
# Delayed adds

A rate queue has a limiter beside it, which says after what delay an item is added
again. A delayed queue also keeps the adds whose delay is not over. Nothing cancels
them; an add that takes place after the queue was shut down changes nothing.
-/

namespace NetAttach

-- ---------------------------------------------------------------------------
-- Queues with a limiter
-- ---------------------------------------------------------------------------

/-- A queue with a limiter. -/
structure RateQueue (α : Type) where
  shared : SharedQueue α
  limiter : Limiter α

namespace RateQueue

variable {α : Type} [DecidableEq α]

/-- An empty queue. -/
def ofLimiter (limiter : Limiter α) : RateQueue α := ⟨.empty, limiter⟩

def add (q : RateQueue α) (x : α) : RateQueue α := { q with shared := q.shared.add x }

def done (q : RateQueue α) (x : α) : RateQueue α := { q with shared := q.shared.done x }

def shutDown (q : RateQueue α) : RateQueue α := { q with shared := q.shared.shutDown }

/-- Clear the retry count of an item. -/
def forget (q : RateQueue α) (x : α) : RateQueue α := { q with limiter := q.limiter.forget x }

/-- The retry count of an item. -/
def retries (q : RateQueue α) (x : α) : Nat := q.limiter.retries x

/-- Ask the limiter for the delay of an item, which counts a retry. -/
def nextDelay (q : RateQueue α) (clock : Nat) (x : α) : Nat × RateQueue α :=
  let (delay, limiter) := q.limiter.delay clock x
  (delay, { q with limiter })

/-- Add an item after a delay in nanoseconds. The answer tells whether the add is still to come: it
is not if there is no delay, or if the queue is shut down. -/
def addAfter (q : RateQueue α) (x : α) (delay : Nat) : Bool × RateQueue α :=
  if q.shared.queue.closed then (false, q)
  else if delay = 0 then (false, q.add x)
  else (true, q)

end RateQueue

-- ---------------------------------------------------------------------------
-- Queues with a clock
-- ---------------------------------------------------------------------------

/-- A queue with a limiter and the adds that are to come. -/
structure DelayedQueue (α : Type) where
  rate : RateQueue α
  agenda : Agenda α

namespace DelayedQueue

variable {α : Type} [DecidableEq α]

/-- An empty queue at time zero. -/
def ofLimiter (limiter : Limiter α) : DelayedQueue α := ⟨.ofLimiter limiter, .empty⟩

def now (q : DelayedQueue α) : Nat := q.agenda.now

def queue (q : DelayedQueue α) : WorkQueue α := q.rate.shared.queue

def add (q : DelayedQueue α) (x : α) : DelayedQueue α := { q with rate := q.rate.add x }

def done (q : DelayedQueue α) (x : α) : DelayedQueue α := { q with rate := q.rate.done x }

def shutDown (q : DelayedQueue α) : DelayedQueue α := { q with rate := q.rate.shutDown }

def forget (q : DelayedQueue α) (x : α) : DelayedQueue α := { q with rate := q.rate.forget x }

def retries (q : DelayedQueue α) (x : α) : Nat := q.rate.retries x

/-- Add an item after a delay in nanoseconds. -/
def addAfter (q : DelayedQueue α) (x : α) (delay : Nat) : DelayedQueue α :=
  match q.rate.addAfter x delay with
  | (true, rate) =>
    { rate, agenda := q.agenda.plan (q.now + Agenda.milliseconds delay) x }
  | (false, rate) => { q with rate }

/-- Add an item after the delay that the limiter says. -/
def addRateLimited (q : DelayedQueue α) (clock : Nat) (x : α) : DelayedQueue α :=
  let (delay, rate) := q.rate.nextDelay clock x
  { q with rate }.addAfter x delay

/-- A getter tries once. -/
def tryOnce (q : DelayedQueue α) (i : Nat) : Option (Delivery α) × DelayedQueue α :=
  let (got, shared) := q.rate.shared.tryOnce i
  (got, { q with rate := { q.rate with shared } })

/-- A getter starts to wait. -/
def seek (q : DelayedQueue α) (i : Nat) : Option (Delivery α) × DelayedQueue α :=
  let (got, shared) := q.rate.shared.seek i
  (got, { q with rate := { q.rate with shared } })

/-- All woken getters go on. -/
def settle (q : DelayedQueue α) : List (Nat × Delivery α) × DelayedQueue α :=
  let (found, shared) := q.rate.shared.settle
  (found, { q with rate := { q.rate with shared } })

/-- Move the clock to a time, no further than to the next planned add, and add what is due. -/
def moveTo (q : DelayedQueue α) (time : Nat) : DelayedQueue α :=
  let (due, agenda) := q.agenda.moveTo time
  { rate := due.foldl RateQueue.add q.rate, agenda }

/-- Move the clock to a time in as many steps as there are planned adds until then. The getters go
on after each step, and what they get is listed with the time. -/
def advanceTo (q : DelayedQueue α) (time : Nat) :
    List (Nat × Delivery α × Nat) × DelayedQueue α :=
  match _h : q.agenda.next? with
  | none => ([], q.moveTo time)
  | some due =>
    if due ≤ time then
      let woken := (q.moveTo due).settle
      let rest := woken.2.advanceTo time
      (woken.1.map (fun f => (f.1, f.2, due)) ++ rest.1, rest.2)
    else ([], q.moveTo time)
termination_by q.agenda.plans.length
decreasing_by
  have hlen := Agenda.length_moveTo q.agenda due
  have hpos := List.length_pos_iff.2 (Agenda.moveTo_next_ne_nil _h)
  show ((q.moveTo due).settle).2.agenda.plans.length < _
  simp only [settle, moveTo]
  omega

end DelayedQueue

end NetAttach
