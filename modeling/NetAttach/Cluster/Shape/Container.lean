-- SUMMARY: The shapes of the containers that a pod asks for and of those that it has.
import NetAttach.Cluster.Shape.Metadata

/-!
# Shapes of containers

A container is described twice: as it is asked for, with its image, environment,
probes and limits, and as it is, with its state.
-/

namespace NetAttach.Cluster.Shape

open NetAttach.Json

-- ---------------------------------------------------------------------------
-- Resources
-- ---------------------------------------------------------------------------

/-- What a container needs and what it may use. -/
def resources : Shape :=
  .looseObject [("claims", textObjects ["name", "request"]), ("limits", quantities),
    ("requests", quantities)]

-- ---------------------------------------------------------------------------
-- The environment
-- ---------------------------------------------------------------------------

/-- A key of a configuration or a secret. -/
def keySelector : Shape :=
  .looseObject [("key", .text), ("name", .text), ("optional", .flag)]

/-- A field of the pod. -/
def fieldSelector : Shape := textObject ["apiVersion", "fieldPath"]

/-- A limit or a request of a container. -/
def resourceSelector : Shape :=
  .looseObject [("containerName", .text), ("divisor", quantity), ("resource", .text)]

/-- A variable of the environment. -/
def environmentVariable : Shape :=
  .looseObject [("name", .text), ("value", .text),
    ("valueFrom", .looseObject [("configMapKeyRef", keySelector), ("fieldRef", fieldSelector),
      ("resourceFieldRef", resourceSelector), ("secretKeyRef", keySelector)])]

/-- A source of many variables. -/
def variableSource : Shape :=
  let all : Shape := .looseObject [("name", .text), ("optional", .flag)]
  .looseObject [("configMapRef", all), ("prefix", .text), ("secretRef", all)]

-- ---------------------------------------------------------------------------
-- Probes
-- ---------------------------------------------------------------------------

/-- What a probe or a hook may do. -/
def handlers : List (String × Shape) :=
  [("exec", .looseObject [("command", .texts)]),
    ("httpGet", .looseObject [("host", .text), ("httpHeaders", textObjects ["name", "value"]),
      ("path", .text), ("port", intOrName), ("scheme", .text)]),
    ("tcpSocket", .looseObject [("host", .text), ("port", intOrName)])]

/-- A test of the health of a container. -/
def probe : Shape :=
  .looseObject (handlers ++ Shape.each .int32 ["failureThreshold", "initialDelaySeconds",
      "periodSeconds", "successThreshold", "timeoutSeconds"]
    ++ [("grpc", .looseObject [("port", .int32), ("service", .text)]),
      ("terminationGracePeriodSeconds", .int64)])

/-- What is done after the start of a container or before its end. -/
def hook : Shape := .looseObject (handlers ++ [("sleep", .looseObject [("seconds", .int64)])])

-- ---------------------------------------------------------------------------
-- Security
-- ---------------------------------------------------------------------------

/-- What the settings of the security of pods and of containers have in common. -/
def securitySettings : List (String × Shape) :=
  Shape.each .int64 ["runAsGroup", "runAsUser"]
    ++ [("appArmorProfile", textObject ["localhostProfile", "type"]), ("runAsNonRoot", .flag),
      ("seLinuxOptions", textObject ["level", "role", "type", "user"]),
      ("seccompProfile", textObject ["localhostProfile", "type"]),
      ("windowsOptions", .looseObject [("gmsaCredentialSpec", .text),
        ("gmsaCredentialSpecName", .text), ("hostProcess", .flag), ("runAsUserName", .text)])]

/-- The security of a container. -/
def containerSecurity : Shape :=
  .looseObject (securitySettings
    ++ Shape.each .flag ["allowPrivilegeEscalation", "privileged", "readOnlyRootFilesystem"]
    ++ [("capabilities", .looseObject [("add", .texts), ("drop", .texts)]), ("procMount", .text)])

-- ---------------------------------------------------------------------------
-- Containers as they are asked for
-- ---------------------------------------------------------------------------

/-- A port of a container. -/
def containerPort : Shape :=
  .looseObject (Shape.each .text ["hostIP", "name", "protocol"]
    ++ Shape.each .int32 ["containerPort", "hostPort"])

/-- A place for a volume in a container. -/
def volumeMount : Shape :=
  .looseObject (Shape.each .text ["mountPath", "mountPropagation", "name", "recursiveReadOnly",
    "subPath", "subPathExpr"] ++ [("readOnly", .flag)])

/-- The members of a container. -/
def containerMembers : List (String × Shape) :=
  Shape.each .text ["image", "imagePullPolicy", "name", "restartPolicy", "terminationMessagePath",
      "terminationMessagePolicy", "workingDir"]
    ++ Shape.each .texts ["args", "command"]
    ++ Shape.each .flag ["stdin", "stdinOnce", "tty"]
    ++ Shape.each probe ["livenessProbe", "readinessProbe", "startupProbe"]
    ++ [("env", .list environmentVariable), ("envFrom", .list variableSource),
      ("lifecycle", .looseObject [("postStart", hook), ("preStop", hook)]),
      ("ports", .list containerPort), ("resizePolicy", textObjects ["resourceName", "restartPolicy"]),
      ("resources", resources), ("securityContext", containerSecurity),
      ("volumeDevices", textObjects ["devicePath", "name"]), ("volumeMounts", .list volumeMount)]

/-- A container that is asked for. -/
def container : Shape := .looseObject containerMembers

/-- A container that is added to a pod at work. -/
def ephemeralContainer : Shape := .looseObject (("targetContainerName", .text) :: containerMembers)

-- ---------------------------------------------------------------------------
-- Containers as they are
-- ---------------------------------------------------------------------------

/-- The state of a container. -/
def containerState : Shape :=
  .looseObject [
    ("running", .looseObject [("startedAt", moment)]),
    ("terminated", .looseObject (Shape.each .text ["containerID", "message", "reason"]
      ++ Shape.each .int32 ["exitCode", "signal"]
      ++ Shape.each moment ["finishedAt", "startedAt"])),
    ("waiting", textObject ["message", "reason"])]

/-- The user that runs a container. -/
def containerUser : Shape :=
  .looseObject [("linux", .looseObject [("gid", .int64), ("supplementalGroups", .list .int64),
    ("uid", .int64)])]

/-- A container that a pod has. -/
def containerStatus : Shape :=
  .looseObject (Shape.each .text ["containerID", "image", "imageID", "name"]
    ++ Shape.each .flag ["ready", "started"]
    ++ Shape.each containerState ["lastState", "state"]
    ++ [("allocatedResources", quantities),
      ("allocatedResourcesStatus", .list (.looseObject [("name", .text),
        ("resources", textObjects ["health", "resourceID"])])),
      ("resources", resources), ("restartCount", .int32), ("user", containerUser),
      ("volumeMounts", .list (.looseObject (Shape.each .text ["mountPath", "name",
        "recursiveReadOnly"] ++ [("readOnly", .flag)])))])

end NetAttach.Cluster.Shape
