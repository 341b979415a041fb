-- SUMMARY: The actions of the controller on its surroundings, and the programs made of them.
import NetAttach.Notice
import NetAttach.Program
import NetAttach.Plugin.Call
import NetAttach.Plugin.Result

/-!
# Control

The controller works on stores, a plugin server and a container runtime that others
use at the same time. Its programs are made of actions on them.
-/

namespace NetAttach

/-- A message for the users of the cluster about a pod. -/
structure Event where
  pod : ObjectKey
  reason : String
  text : String
deriving Repr, DecidableEq

-- ---------------------------------------------------------------------------
-- Actions
-- ---------------------------------------------------------------------------

/-- One action on the surroundings. -/
inductive Action where
  | getPod (key : ObjectKey)
  /-- Write a pod, which is refused if its version is not the stored one. -/
  | updatePod (pod : Pod)
  | getDefinition (key : ObjectKey)
  | invoke (call : Plugin.Call)
  /-- Ask for the network namespace of a container. -/
  | getNetns (container : String)
  | emit (event : Event)
  | notify (notice : Notice)
  /-- Make a request and add it to the queue. -/
  | enqueue (request : Request)
deriving DecidableEq

/-- What comes back from an action. -/
abbrev Action.Answer : Action → Type
  | .getPod _ | .updatePod _ => Except Fault Pod
  | .getDefinition _ => Except Fault Definition
  | .invoke _ => Except Fault Plugin.Response
  | .getNetns _ => Except Fault String
  | .emit _ | .notify _ | .enqueue _ => Unit

-- ---------------------------------------------------------------------------
-- Control
-- ---------------------------------------------------------------------------

/-- What the controller does, with a result. -/
abbrev Control : Type → Type := Program Action.Answer

/-- The program of one action. -/
abbrev ask (action : Action) : Control action.Answer := Program.ask action

/-- A program that may fail. -/
abbrev Attempt : Type → Type := ExceptT Fault Control

namespace Attempt

variable {α : Type}

/-- An action whose answer may be a fault, which fails the program. -/
def reply (p : Control (Except Fault α)) : Attempt α := ExceptT.mk p

/-- An action whose answer is looked at, whether it is a fault or not. -/
def outcome (p : Control α) : Attempt α := ExceptT.lift p

/-- Go on with what was computed, or fail with its fault. -/
def ofExcept (r : Except AnnotationFault α) : Attempt α :=
  ExceptT.mk (.done (r.mapError .invalid))

end Attempt

end NetAttach
