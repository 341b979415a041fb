-- SUMMARY: The shape of pods: where they may run, what they consist of, and how they are.
import NetAttach.Cluster.Shape.Volume

/-!
# The shape of pods

A pod has metadata, a specification of what is asked for, and a status.
-/

namespace NetAttach.Cluster.Shape

open NetAttach.Json

-- ---------------------------------------------------------------------------
-- Where pods may run
-- ---------------------------------------------------------------------------

/-- A condition on nodes. -/
def nodeTerm : Shape :=
  .looseObject [("matchExpressions", .list requirement), ("matchFields", .list requirement)]

/-- A condition on the other pods of a node. -/
def podTerm : Shape :=
  .looseObject (Shape.each .texts ["matchLabelKeys", "mismatchLabelKeys", "namespaces"]
    ++ Shape.each labelSelector ["labelSelector", "namespaceSelector"]
    ++ [("topologyKey", .text)])

/-- Conditions on nodes, wanted or wished for. -/
def preferences (required : Shape) (term : String) (s : Shape) : Shape :=
  .looseObject [
    ("preferredDuringSchedulingIgnoredDuringExecution",
      .list (.looseObject [(term, s), ("weight", .int32)])),
    ("requiredDuringSchedulingIgnoredDuringExecution", required)]

/-- All conditions on nodes. -/
def affinity : Shape :=
  let pods := preferences (.list podTerm) "podAffinityTerm" podTerm
  .looseObject [
    ("nodeAffinity", preferences (.looseObject [("nodeSelectorTerms", .list nodeTerm)])
      "preference" nodeTerm),
    ("podAffinity", pods), ("podAntiAffinity", pods)]

/-- A taint of nodes that a pod bears. -/
def toleration : Shape :=
  .looseObject (("tolerationSeconds", .int64)
    :: Shape.each .text ["effect", "key", "operator", "value"])

/-- How pods are spread over nodes. -/
def spread : Shape :=
  .looseObject (Shape.each .text ["nodeAffinityPolicy", "nodeTaintsPolicy", "topologyKey",
      "whenUnsatisfiable"]
    ++ Shape.each .int32 ["maxSkew", "minDomains"]
    ++ [("labelSelector", labelSelector), ("matchLabelKeys", .texts)])

-- ---------------------------------------------------------------------------
-- Specifications
-- ---------------------------------------------------------------------------

/-- The security of a pod. -/
def podSecurity : Shape :=
  .looseObject (securitySettings
    ++ Shape.each .text ["fsGroupChangePolicy", "seLinuxChangePolicy", "supplementalGroupsPolicy"]
    ++ [("fsGroup", .int64), ("supplementalGroups", .list .int64),
      ("sysctls", textObjects ["name", "value"])])

/-- How a pod finds names. -/
def nameService : Shape :=
  .looseObject [("nameservers", .texts), ("options", textObjects ["name", "value"]),
    ("searches", .texts)]

/-- What is asked for. -/
def podSpecification : Shape :=
  .looseObject (Shape.each .text ["dnsPolicy", "hostname", "nodeName", "preemptionPolicy",
      "priorityClassName", "restartPolicy", "runtimeClassName", "schedulerName", "serviceAccount",
      "serviceAccountName", "subdomain"]
    ++ Shape.each .flag ["automountServiceAccountToken", "enableServiceLinks", "hostIPC",
      "hostNetwork", "hostPID", "hostUsers", "setHostnameAsFQDN", "shareProcessNamespace"]
    ++ Shape.each .int64 ["activeDeadlineSeconds", "terminationGracePeriodSeconds"]
    ++ Shape.each (.list container) ["containers", "initContainers"]
    ++ [("affinity", affinity), ("dnsConfig", nameService),
      ("ephemeralContainers", .list ephemeralContainer),
      ("hostAliases", .list (.looseObject [("hostnames", .texts), ("ip", .text)])),
      ("imagePullSecrets", textObjects ["name"]), ("nodeSelector", .textDict),
      ("os", textObject ["name"]), ("overhead", quantities), ("priority", .int32),
      ("readinessGates", textObjects ["conditionType"]),
      ("resourceClaims", textObjects ["name", "resourceClaimName", "resourceClaimTemplateName"]),
      ("resources", resources), ("schedulingGates", textObjects ["name"]),
      ("securityContext", podSecurity), ("tolerations", .list toleration),
      ("topologySpreadConstraints", .list spread), ("volumes", .list volume)])

-- ---------------------------------------------------------------------------
-- Statuses
-- ---------------------------------------------------------------------------

/-- Something that holds of a pod, or not. -/
def condition : Shape :=
  .looseObject (Shape.each .text ["message", "reason", "status", "type"]
    ++ Shape.each moment ["lastProbeTime", "lastTransitionTime"])

/-- How a pod is. -/
def podStatus : Shape :=
  .looseObject (Shape.each .text ["hostIP", "message", "nominatedNodeName", "phase", "podIP",
      "qosClass", "reason", "resize"]
    ++ Shape.each (.list containerStatus) ["containerStatuses", "ephemeralContainerStatuses",
      "initContainerStatuses"]
    ++ Shape.each (textObjects ["ip"]) ["hostIPs", "podIPs"]
    ++ [("conditions", .list condition),
      ("resourceClaimStatuses", textObjects ["name", "resourceClaimName"]), ("startTime", moment)])

/-- A pod. -/
def pod : Shape :=
  .object (kinded "v1" "Pod" ++ Shape.optionals [("metadata", metadata), ("spec", podSpecification),
    ("status", podStatus)])

end NetAttach.Cluster.Shape
