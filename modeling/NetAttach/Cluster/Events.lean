-- SUMMARY: Publishing events at the API server.
import NetAttach.Cluster.Api
import NetAttach.Cluster.Shape.Metadata
import NetAttach.Controller.Control

/-!
# Published events

An event is published in the namespace of its pod, and refers to the pod. If the
server does not answer with an event, that is reported and the event is lost.
-/

namespace NetAttach.Cluster

/-- Who reports events. -/
structure Reporter where
  controller : String
  /-- Which of several controllers of this name. -/
  instance? : Option String
deriving Repr, DecidableEq

/-- The name under which the controller reports events. -/
def advertisedName : String := "pod-networks-updates"

/-- The document of an event. -/
def eventDocument (reporter : Reporter) (e : Event) : Json :=
  .record [
    Json.member "metadata" (.obj [("namespace", .str e.pod.space)]),
    Json.member "type" (.str "Normal"),
    Json.member "reason" (.str e.reason),
    Json.member "action" (.str e.reason),
    Json.member "note" (.str e.text),
    Json.member "regarding" (.obj [
      ("apiVersion", .str "v1"), ("kind", .str "Pod"),
      ("namespace", .str e.pod.space), ("name", .str e.pod.name)]),
    Json.member "reportingController" (.str reporter.controller),
    Json.member "reportingInstance" (.str (reporter.instance?.getD reporter.controller))]

/-- An event as the server writes it. -/
def readPublished (j : Json) : Option Unit :=
  guard ((Json.Shape.object (Shape.kinded "events.k8s.io/v1" "Event")).describes j)

/-- Publish an event, and report it if that fails. -/
def publish (reporter : Reporter) (e : Event) : Exchange (List Notice) := do
  match ← request .post (eventsTarget e.pod.space) (some (eventDocument reporter e)) readPublished with
  | .ok () => return []
  | .error _ => return [.eventNotPublished e.reason e.pod]

end NetAttach.Cluster
