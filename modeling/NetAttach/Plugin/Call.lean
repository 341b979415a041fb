-- SUMMARY: Calls of the network plugin and the environment in which a plugin runs.
import NetAttach.Fault
import NetAttach.Text.Utf8

/-!
# Plugin calls

A call asks the plugin to attach or detach one interface of a pod. Plugins take
their parameters from environment variables.
-/

namespace NetAttach.Plugin

/-- All that the plugin server needs to run one command. -/
structure Call where
  command : Command
  containerId : String
  netns : String
  interface : String
  podSpace : String
  podName : String
  podUid : String
  /-- The configuration of the network. -/
  config : List UInt8
  ips : List String
  mac : Option String
deriving Repr, DecidableEq

/-- The extra arguments, which name the pod. -/
def Call.args (c : Call) : String :=
  "IgnoreUnknown=true;K8S_POD_NAMESPACE=" ++ c.podSpace ++ ";K8S_POD_NAME=" ++ c.podName
    ++ ";K8S_POD_INFRA_CONTAINER_ID=" ++ c.containerId ++ ";K8S_POD_UID=" ++ c.podUid

/-- The environment variables of a call. -/
def Call.env (c : Call) : Dict String :=
  Dict.ofList [
    ("CNI_COMMAND", c.command.render),
    ("CNI_CONTAINERID", c.containerId),
    ("CNI_NETNS", c.netns),
    ("CNI_IFNAME", c.interface),
    ("CNI_ARGS", c.args)]

end NetAttach.Plugin
