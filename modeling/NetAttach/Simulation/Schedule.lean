-- SUMMARY: Running a controller in virtual time: one step after the other, in the order in which they become possible.
import NetAttach.Simulation.World
import NetAttach.Controller.Worker
import NetAttach.Controller.Watch

/-!
# Schedules

Virtual time stands still while anyone can go on. Whoever can go on joins a line, and
the first in line goes on until it has to wait. When the line is empty, time moves to
the next plan. The watch takes no time between the receipt of an update and its last
request; the plugin takes the time that its rule says.
-/

namespace NetAttach.Simulation

/-- Something that can go on. -/
inductive Job where
  | work (worker : Nat)
  /-- The plugin answers a worker. -/
  | answer (worker : Nat)
  /-- The delay of a request, in nanoseconds, starts. -/
  | delay (ticket : Ticket) (length : Nat)
  /-- The delay of a request is over. -/
  | add (ticket : Ticket)
  | watch
  /-- The controller is shut down. -/
  | stop
deriving DecidableEq

/-- A controller in its surroundings. -/
structure Scene where
  world : World
  controller : Controller
  agenda : Agenda Job
  /-- Those that can go on, first in line first. -/
  ready : List Job
  /-- The rules by which the plugin will answer to workers. -/
  awaited : Keyed Nat (Option Rule)
  /-- The place of the watch in the feed of the pods, if there is a watch. -/
  place : Option Nat

namespace Scene

/-- A controller that has just started. -/
def start (world : World) (controller : Controller) (watching : Bool) : Scene :=
  { world, controller, agenda := .empty
    ready := (if watching then [.watch] else [])
      ++ (List.range controller.workers.length).map .work
    awaited := .empty
    place := if watching then some world.store.feed.subscribe else none }

def now (s : Scene) : Nat := s.agenda.now

-- ---------------------------------------------------------------------------
-- The line
-- ---------------------------------------------------------------------------

/-- The worker can go on and is not in line. -/
def mayJoin (s : Scene) (i : Nat) : Bool :=
  s.controller.canMove i && (s.awaited.get? i).isNone && !s.ready.contains (.work i)

/-- There is something to receive for the watch, and it is not in line. -/
def watchMayJoin (s : Scene) : Bool :=
  !s.ready.contains .watch && s.place.any fun p => (s.world.store.feed.receive? p).isSome

/-- All that can go on join the line. -/
def callUp (s : Scene) : Scene :=
  let workers := (List.range s.controller.workers.length).filter s.mayJoin
  { s with ready := s.ready ++ (if s.watchMayJoin then [.watch] else []) ++ workers.map .work }

-- ---------------------------------------------------------------------------
-- Steps
-- ---------------------------------------------------------------------------

/-- Carry out an action at once. -/
def perform (s : Scene) (action : Action) : action.Answer × Scene :=
  let (answer, world) := s.world.perform s.now action
  match action with
  | .enqueue request => (answer, { s with controller := s.controller.enqueue request })
  | _ => (answer, { s with world })

/-- Carry out a program at once. -/
def carryOut (s : Scene) (p : Control Unit) : Scene := (p.run (fun action s => s.perform action) s).2

/-- What a step does besides. -/
def affect (s : Scene) : Effect → Scene
  | .notify n => { s with world := s.world.notify n }
  | .addLater t delay => { s with ready := s.ready ++ [.delay t delay] }

/-- The job of a worker that is first in line. It stays first in line unless it has to wait. -/
def stepWorker (s : Scene) (i : Nat) (others : List Job) : Scene :=
  match s.controller.turn 0 i with
  | .rests => { s with ready := others }
  | .moves controller effects => effects.foldl affect { s with controller }
  | .acts (.invoke call) next =>
    let (rule, world) := s.world.callPlugin s.now call
    let delay := (rule.map (·.delay)).getD 0
    if delay = 0 then
      let (answer, world) := world.answerCall rule call
      { s with world, controller := next answer }
    else
      { s with
        world, ready := others, awaited := s.awaited.put i rule
        agenda := s.agenda.plan (s.now + delay) (.answer i) }
  | .acts action next =>
    let (answer, s) := s.perform action
    { s with controller := next answer }

/-- The plugin answers a worker, which goes on. -/
def stepAnswer (s : Scene) (i : Nat) (others : List Job) : Scene :=
  match s.awaited.get? i, s.controller.turn 0 i with
  | some rule, .acts (.invoke call) next =>
    let (answer, world) := s.world.answerCall rule call
    { s with
      world, controller := next answer, awaited := s.awaited.erase i, ready := .work i :: others }
  | _, _ => { s with ready := others }

/-- The watch receives what is next, and stays first in line while there is something. -/
def stepWatch (s : Scene) (others : List Job) : Scene :=
  match s.place.bind s.world.store.feed.receive? with
  | some (receipt, place) => { s with place := some place }.carryOut (handleReceipt receipt)
  | none => { s with ready := others }

/-- The first in line goes on by one step. -/
def step (s : Scene) : Scene :=
  match s.ready with
  | [] => s
  | job :: others =>
    (match job with
      | .work i => s.stepWorker i others
      | .answer i => s.stepAnswer i others
      | .delay t length =>
        { s with
          ready := others
          agenda := s.agenda.plan (s.now + Agenda.milliseconds length) (.add t) }
      | .add t => { s with ready := others, controller := s.controller.add t }
      | .watch => s.stepWatch others
      | .stop =>
        { s with ready := others, place := none, controller := s.controller.shutDown }).callUp

/-- Time moves on, and what is planned until then joins the line. -/
def moveTo (s : Scene) (time : Nat) : Scene :=
  let (due, agenda) := s.agenda.moveTo time
  { s with agenda, ready := s.ready ++ due }

-- ---------------------------------------------------------------------------
-- Runs
-- ---------------------------------------------------------------------------

/-- More steps than any run takes. -/
def patience : Nat := 10000000

/-- Go on to a time, as long as `stop` does not hold, with at most so many steps. -/
def runFor (stop : Scene → Bool) (time : Nat) : (steps : Nat) → Scene → Scene
  | 0, s => s
  | steps + 1, s =>
    if stop s then s
    else if s.ready.isEmpty then
      match s.agenda.next? with
      | some due =>
        if due ≤ time then runFor stop time steps (s.moveTo due) else s.moveTo time
      | none => s.moveTo time
    else runFor stop time steps s.step

/-- Go on to a time, at which nobody can go on. -/
def runUntil (s : Scene) (time : Nat) : Scene := runFor (fun _ => false) time patience s

/-- Go on to a time, at which those that can go on are in line and have not gone on. -/
def reach (s : Scene) (time : Nat) : Scene :=
  if time ≤ s.now then s else (s.runUntil (time - 1)).moveTo time

/-- Something from outside changes the scene. -/
def change (s : Scene) (f : Scene → Scene) : Scene := (f s).callUp

/-- Someone else writes the pods. -/
def changeWorld (s : Scene) (f : World → World) : Scene :=
  s.change fun s => { s with world := f s.world }

/-- The controller is told to stop. -/
def stop (s : Scene) : Scene := { s with ready := s.ready ++ [.stop] }

/-- The queue is shut down and all workers have left. -/
def isOver (s : Scene) : Bool := s.controller.queue.shared.queue.closed && s.controller.isOver

/-- Go on until all is over. -/
def runToEnd (s : Scene) (limit : Nat) : Scene := runFor isOver limit patience s

-- ---------------------------------------------------------------------------
-- Single deliveries
-- ---------------------------------------------------------------------------

/-- How the delivery of one request ended. -/
inductive Delivered where
  | worked
  /-- The queue was shut down and empty. -/
  | closed
  /-- Nothing arrived. -/
  | idle
deriving Repr, DecidableEq

/-- The only worker has worked off a request, or has left. -/
def hasDelivered (s : Scene) : Bool :=
  match s.controller.phase 0 with
  | .finishing _ => true
  | .left => true
  | _ => false

/-- The time in milliseconds to wait for a request. -/
def waitLimit : Nat := 10000000

/-- Send the only worker away, wherever it stands. -/
def dismiss (s : Scene) : Scene :=
  { s with
    controller := { s.controller.abandon 0 with workers := [] }
    agenda := s.agenda.cancel (· = .answer 0)
    ready := s.ready.filter fun job => job ≠ .work 0 ∧ job ≠ .answer 0
    awaited := s.awaited.erase 0 }

/-- Have one worker deliver one request, and wait for it if need be. -/
def deliverOne (s : Scene) : Delivered × Scene :=
  let hired := { s with controller := { s.controller with workers := [.seeking] } }.callUp
  let s := runFor hasDelivered (s.now + waitLimit) patience hired
  let (delivered, s) : Delivered × Scene :=
    match s.controller.phase 0 with
    | .finishing _ => (.worked, s.step)
    | .left => (.closed, s)
    | _ => (.idle, s)
  (delivered, (s.dismiss).runUntil s.now)

end Scene

end NetAttach.Simulation
