-- SUMMARY: Surroundings of a controller that follow a script: stores with accidents, a plugin with rules.
import NetAttach.Controller.Control
import NetAttach.Store.Memory

/-!
# Scripted surroundings

A world holds the pods and definitions in memory. Accesses to pods meet with accidents
in a given order, the plugin answers by rules, and all calls, events and notices are
kept with their times.
-/

namespace NetAttach.Simulation

-- ---------------------------------------------------------------------------
-- Scripts
-- ---------------------------------------------------------------------------

/-- Changes of annotations: each is set to a text or taken off. -/
abbrev Patch := List (String × Option String)

/-- Change annotations of a pod. -/
def patched (patch : Patch) (pod : Pod) : Pod :=
  let change (d : Dict String) (e : String × Option String) : Dict String :=
    match e.2 with
    | some text => d.insert e.1 text
    | none => d.erase e.1
  { pod with annotations := patch.foldl change pod.annotations }

/-- What happens right before an access to a pod. -/
inductive Accident where
  | nothing
  /-- Another writer changes the annotations of the pod. -/
  | race (patch : Patch)
  /-- The store fails. -/
  | failure (reason : String)
  /-- The pod is deleted. -/
  | deletion
deriving Repr, DecidableEq

/-- How the plugin answers calls. -/
structure Rule where
  /-- The rule is for this command only. -/
  command : Option Command
  /-- The rule is for this wanted interface only. -/
  interface : Option String
  /-- The rule is for networks with this configuration only. -/
  config : Option String
  /-- The rule is for so many calls only. -/
  times : Option Nat
  /-- The time in milliseconds until the answer. -/
  delay : Nat
  /-- Another writer changes the annotations of the pod meanwhile. -/
  patch : Option Patch
  /-- The plugin fails with this reason. -/
  error : Option String
  /-- The plugin answers with this text. -/
  response : Option String
deriving Repr, DecidableEq

/-- A rule is for a call, and is not used up. -/
def Rule.fits (r : Rule) (c : Plugin.Call) : Bool :=
  r.command.all (· == c.command) && r.interface.all (· == c.interface)
    && r.config.all (fun t => Text.Utf8.encode t == c.config) && r.times.all (· != 0)

/-- A rule after one use. -/
def Rule.used (r : Rule) : Rule := { r with times := r.times.map (· - 1) }

/-- The first rule for a call, and all rules after its use. -/
def chooseRule (c : Plugin.Call) : List Rule → Option Rule × List Rule
  | [] => (none, [])
  | r :: rs =>
    if r.fits c then (some r, r.used :: rs)
    else
      let (found, rs) := chooseRule c rs
      (found, r :: rs)

/-- What the plugin answers without a rule: it makes one interface with the wanted addresses. -/
def plainResponse (c : Plugin.Call) : Plugin.Response :=
  match c.command with
  | .del => { result := none }
  | .add =>
    { result := some
        { cniVersion := "1.0.0"
          interfaces := [{
            name := if c.interface = "" then "net1" else c.interface
            mac := "02:00:00:00:00:01", sandbox := c.netns }]
          ips := c.ips.map fun ip => { address := ip, gateway := none, interface := some 0 }
          routes := []
          dns := Plugin.Dns.empty } }

/-- What the plugin answers to a call by a rule. -/
def Rule.answer (rule : Option Rule) (c : Plugin.Call) : Except Fault Plugin.Response :=
  match rule.bind (·.error), rule.bind (·.response) with
  | some reason, _ => .error (.delegate (.reported reason))
  | none, some text =>
    match Json.decodeText Plugin.Response.read text with
    | some r => .ok r
    | none => .error (.delegate (.reported "invalid response"))
  | none, none => .ok (plainResponse c)

-- ---------------------------------------------------------------------------
-- Worlds
-- ---------------------------------------------------------------------------

/-- Surroundings and what happened in them. -/
structure World where
  store : PodStore
  /-- The pods that are stored but count as deleted. -/
  deleted : List ObjectKey
  definitions : DefinitionStore
  /-- The network namespaces of containers. Without one, the container does not exist. -/
  netns : Keyed String (Option String)
  rules : List Rule
  /-- What happens before the next reads of pods. -/
  readAccidents : List Accident
  /-- What happens before the next writes of pods. -/
  writeAccidents : List Accident
  /-- The calls of the plugin with their times, latest first. -/
  calls : List (Nat × Plugin.Call)
  /-- The events with their times, latest first. -/
  events : List (Nat × Event)
  /-- The notices, latest first. -/
  notices : List Notice

namespace World

/-- The pod with a name, unless it is deleted. -/
def pod? (w : World) (key : ObjectKey) : Option Pod :=
  if w.deleted.contains key then none else w.store.pods.get? key

/-- The state of all pods that were ever stored. -/
def pods (w : World) : List (ObjectKey × Option Pod) :=
  w.store.pods.entries.map fun e => (e.1, w.pod? e.1)

/-- The pod with a name, even if it is deleted. -/
def stored? (w : World) (key : ObjectKey) : Option Pod := w.store.pods.get? key

/-- Another writer writes a pod. A deleted pod is there again. -/
def apply (w : World) (pod : Pod) : Pod × World :=
  let (stored, store) := w.store.apply pod
  (stored, { w with store, deleted := w.deleted.filter (· ≠ pod.key) })

/-- Another writer changes annotations of a pod. A deleted pod is there again. -/
def patch (w : World) (key : ObjectKey) (patch : Patch) : World :=
  (w.stored? key).elim w fun pod => (w.apply (patched patch pod)).2

/-- Annotations of a pod change in the store, where a deleted pod stays deleted. -/
def disturb (w : World) (key : ObjectKey) (patch : Patch) : World :=
  (w.stored? key).elim w fun pod => { w with store := (w.store.apply (patched patch pod)).2 }

/-- Another writer deletes a pod. -/
def delete (w : World) (key : ObjectKey) : World := { w with deleted := key :: w.deleted }

/-- Let an accident happen before an access to a pod. The answer is a fault if the access fails. -/
def suffer (w : World) (key : ObjectKey) : Accident → Option Fault × World
  | .nothing => (none, w)
  | .race p => (none, w.disturb key p)
  | .failure reason => (some (.store (.reported reason)), w)
  | .deletion => (none, w.delete key)

/-- Read a pod. -/
def getPod (w : World) (key : ObjectKey) : Except Fault Pod × World :=
  let (fault, w) := { w with readAccidents := w.readAccidents.tail }.suffer key
    (w.readAccidents.head?.getD .nothing)
  match fault with
  | some e => (.error e, w)
  | none => if w.deleted.contains key then (.error (.notFound .pod key), w) else (w.store.get key, w)

/-- Write a pod. -/
def updatePod (w : World) (pod : Pod) : Except Fault Pod × World :=
  let (fault, w) := { w with writeAccidents := w.writeAccidents.tail }.suffer pod.key
    (w.writeAccidents.head?.getD .nothing)
  match fault with
  | some e => (.error e, w)
  | none =>
    if w.deleted.contains pod.key then (.error (.notFound .pod pod.key), w)
    else
      let (r, store) := w.store.update pod
      (r, { w with store })

/-- The plugin is called, and a rule is chosen. -/
def callPlugin (w : World) (now : Nat) (c : Plugin.Call) : Option Rule × World :=
  let (rule, rules) := chooseRule c w.rules
  (rule, { w with rules, calls := (now, c) :: w.calls })

/-- The plugin answers by the rule that was chosen. -/
def answerCall (w : World) (rule : Option Rule) (c : Plugin.Call) :
    Except Fault Plugin.Response × World :=
  let w := (rule.bind (·.patch)).elim w (w.disturb ⟨c.podSpace, c.podName⟩)
  (Rule.answer rule c, w)

/-- The network namespace of a container. -/
def getNetns (w : World) (container : String) : Except Fault String :=
  match w.netns.get? container with
  | some (some path) => .ok path
  | some none => .error (.runtime (.reported ("no such container " ++ container)))
  | none => .ok ("/var/run/netns/" ++ container)

/-- Keep a notice. -/
def notify (w : World) (n : Notice) : World := { w with notices := n :: w.notices }

/-- Carry out an action at once. Requests are for the controller and change nothing here. -/
def perform (w : World) (now : Nat) : (action : Action) → action.Answer × World
  | .getPod key => w.getPod key
  | .updatePod pod => w.updatePod pod
  | .getDefinition key => (w.definitions.get key, w)
  | .invoke c =>
    let (rule, w) := w.callPlugin now c
    w.answerCall rule c
  | .getNetns container => (w.getNetns container, w)
  | .emit event => ((), { w with events := (now, event) :: w.events })
  | .notify n => ((), w.notify n)
  | .enqueue _ => ((), w)

end World

end NetAttach.Simulation
