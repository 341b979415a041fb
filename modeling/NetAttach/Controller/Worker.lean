-- SUMMARY: The workers of a controller, which take requests from the queue and work them off under the lock of the pod.
import NetAttach.Controller.Reconcile
import NetAttach.Controller.Locks
import NetAttach.Queue.Delayed

/-!
# Workers

A worker gets a request from the queue, waits for the lock of its pod, works it off,
lets go of the lock, and sees what is to be done about the result, over and over until
the queue is shut down and empty. `Controller.turn` tells the next single step of one
worker; the steps of different workers may follow each other in any order.
-/

namespace NetAttach

/-- A failed request is tried again while its retry count is at most this. -/
def maxRetries : Nat := 2

/-- How often a refused write of a status is repeated, unless configured otherwise. -/
def defaultConflictRetries : Nat := 5

/-- Where a worker stands. -/
inductive Phase where
  /-- It is about to get a request. -/
  | seeking
  /-- It is registered with the queue. -/
  | listed
  /-- It is about to ask for the lock of the pod. -/
  | asking (ticket : Ticket)
  /-- It is in line at the lock. -/
  | lined (ticket : Ticket) (lock : Nat)
  /-- It holds the lock and has this to do. -/
  | working (ticket : Ticket) (lock : Nat) (rest : Control (Except Fault Unit))
  /-- It has left the line at the lock. -/
  | sweeping (ticket : Ticket) (result : Except Fault Unit)
  /-- It is about to see to the result. -/
  | settling (ticket : Ticket) (result : Except Fault Unit)
  /-- It is about to mark the request as done. -/
  | finishing (ticket : Ticket)
  /-- The queue was shut down and empty. -/
  | left

/-- A controller at work. -/
structure Controller where
  /-- How often a refused write of a status is repeated. -/
  conflictRetries : Nat
  /-- The number of requests that were made. -/
  made : Nat
  queue : RateQueue Ticket
  locks : Locks
  workers : List Phase

/-- What a step does besides. -/
inductive Effect where
  | notify (notice : Notice)
  /-- The request is to be added after a delay in nanoseconds. -/
  | addLater (ticket : Ticket) (delay : Nat)

/-- The next step of a worker. -/
inductive Turn where
  /-- There is none before something else happens. -/
  | rests
  /-- It acts on the surroundings, and goes on with the answer. -/
  | acts (action : Action) (next : action.Answer → Controller)
  | moves (next : Controller) (effects : List Effect)

namespace Controller

/-- A controller without requests. -/
def ofWorkers (conflictRetries workers : Nat) : Controller :=
  { conflictRetries, made := 0, queue := .ofLimiter .standard, locks := .empty
    workers := List.replicate workers .seeking }

/-- The phase of a worker. There is no worker after the last. -/
def phase (c : Controller) (i : Nat) : Phase := c.workers[i]?.getD .left

/-- A worker enters a phase. -/
def enter (c : Controller) (i : Nat) (p : Phase) : Controller :=
  { c with workers := c.workers.set i p }

/-- The controller with another state of its shared queue. -/
def withShared (c : Controller) (shared : SharedQueue Ticket) : Controller :=
  { c with queue := { c.queue with shared } }

/-- The ticket for the next request. -/
def ticket (c : Controller) (request : Request) : Ticket := ⟨c.made, request⟩

/-- Make a request and add it to the queue. -/
def enqueue (c : Controller) (request : Request) : Controller :=
  { c with made := c.made + 1, queue := c.queue.add (c.ticket request) }

/-- Add a request that was made before. -/
def add (c : Controller) (ticket : Ticket) : Controller := { c with queue := c.queue.add ticket }

/-- Make no more requests. -/
def shutDown (c : Controller) : Controller := { c with queue := c.queue.shutDown }

-- ---------------------------------------------------------------------------
-- Results
-- ---------------------------------------------------------------------------

/-- See to the result of a request: forget its retries after a success, try it again after a
failure, and give it up after too many. -/
def settle (c : Controller) (clock : Nat) (t : Ticket) :
    Except Fault Unit → Controller × List Effect
  | .ok () => ({ c with queue := c.queue.forget t }, [])
  | .error cause =>
    let retries := c.queue.retries t
    if retries ≤ maxRetries then
      let (delay, queue) := c.queue.nextDelay clock t
      let (later, queue) := queue.addAfter t delay
      ({ c with queue },
        .notify (.requeued t.request cause) :: if later then [.addLater t delay] else [])
    else ({ c with queue := c.queue.forget t }, [.notify (.dropped t.request retries cause)])

-- ---------------------------------------------------------------------------
-- Steps
-- ---------------------------------------------------------------------------

/-- A registered worker looks at the queue if it has not yet, and starts anew if it was woken. -/
def look (c : Controller) (i : Nat) : Turn :=
  match c.queue.shared.getter? i with
  | none => .rests
  | some g =>
    if g.asleep then .rests
    else if g.woken then .moves ((c.withShared (c.queue.shared.drop i)).enter i .seeking) []
    else
      let (got, shared) := c.queue.shared.check i
      let c := c.withShared shared
      match got with
      | none => .moves c []
      | some (.item t) => .moves (c.enter i (.asking t)) []
      | some .closed => .moves (c.enter i .left) []

/-- The next step of a worker. -/
def turn (c : Controller) (clock i : Nat) : Turn :=
  match c.phase i with
  | .seeking => .moves ((c.withShared (c.queue.shared.register i)).enter i .listed) []
  | .listed => c.look i
  | .asking t =>
    let (lock, locks) := c.locks.request t.request.pod i
    .moves ({ c with locks }.enter i (.lined t lock)) []
  | .lined t lock =>
    if c.locks.holds lock i then
      let program := (reconcile c.conflictRetries t.request).run
      .moves (c.enter i (.working t lock program)) []
    else .rests
  | .working t lock (.act action next) =>
    .acts action fun answer => c.enter i (.working t lock (next answer))
  | .working t lock (.done result) =>
    .moves ({ c with locks := c.locks.release lock i }.enter i (.sweeping t result)) []
  | .sweeping t result =>
    .moves ({ c with locks := c.locks.sweep t.request.pod }.enter i (.settling t result)) []
  | .settling t result =>
    let (c, effects) := c.settle clock t result
    .moves (c.enter i (.finishing t)) effects
  | .finishing t => .moves ({ c with queue := c.queue.done t }.enter i .seeking) []
  | .left => .rests

/-- A worker stops where it stands and leaves the line at the queue or at a lock. The request that it
has taken is not marked as done. -/
def abandon (c : Controller) (i : Nat) : Controller :=
  let gone := (c.withShared (c.queue.shared.leave i)).enter i .left
  match c.phase i with
  | .lined t lock => { gone with locks := (c.locks.release lock i).sweep t.request.pod }
  | .working t lock _ => { gone with locks := (c.locks.release lock i).sweep t.request.pod }
  | .sweeping t _ => { gone with locks := c.locks.sweep t.request.pod }
  | _ => gone

/-- A worker can go on by itself. -/
def canMove (c : Controller) (i : Nat) : Bool :=
  match c.phase i with
  | .listed => (c.queue.shared.getter? i).any fun g => !g.asleep
  | .lined _ lock => c.locks.holds lock i
  | .left => false
  | _ => true

/-- All workers have left. -/
def isOver (c : Controller) : Bool :=
  c.workers.all fun
    | .left => true
    | _ => false

end Controller

end NetAttach
