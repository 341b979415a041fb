-- SUMMARY: What can go wrong, as causes, and the message of each.
import NetAttach.Pod
import NetAttach.Selection.Basic
import NetAttach.Text.Quoted

/-!
# Faults

A fault says what went wrong and with which object. `Fault.message` is the one place
where the wording stands.
-/

namespace NetAttach

/-- Why an annotation cannot be used. -/
inductive AnnotationFault where
  /-- The pod has no networks annotation. -/
  | missing (pod : ObjectKey)
  /-- The networks annotation is no list of selections. -/
  | networksUnreadable
  /-- A network is written with more than one slash. -/
  | manyNamespaces (item : String)
  /-- A network is written with more than one at sign. -/
  | manyInterfaces (item : String)
  /-- A namespace or name is no DNS label. -/
  | notALabel (part item : String)
  /-- A selection has no name. -/
  | unnamed
  /-- A wanted address is no address block. -/
  | notABlock (block : String)
  /-- A wanted hardware address is none. -/
  | notAMac (mac : String)
  /-- The status annotation is no list of attachments. -/
  | statusUnreadable
  /-- An attachment to record has no interface name. -/
  | interfaceUnknown (network : String)
  /-- An attachment to record has the interface name of another. -/
  | interfaceRecorded (interface : String)
  /-- The wanted interface belongs to another attachment. -/
  | interfaceTaken (interface : String) (pod : ObjectKey) (network : String)
deriving Repr, DecidableEq

/-- The kind of an object that is looked up. -/
inductive ObjectKind where
  | pod
  | definition
deriving Repr, DecidableEq

/-- The kind of an object as messages name it. -/
def ObjectKind.render : ObjectKind → String
  | .pod => "pod"
  | .definition => "network-attachment-definition"

/-- The two commands of a network plugin. -/
inductive Command where
  | add
  | del
deriving Repr, DecidableEq

/-- A command in capitals. -/
def Command.render : Command → String
  | .add => "ADD"
  | .del => "DEL"

/-- Why the plugin server did not do what was asked. -/
inductive DelegateFault where
  /-- Nobody listens on its socket. -/
  | unreachable
  /-- The connection ended before an answer. -/
  | exchangeFailed
  /-- The connection ended within an answer. -/
  | answerCut
  /-- The answer has a status that is no success. -/
  | refused (command : Command) (status : Nat) (body : String)
  /-- The answer is no response. -/
  | answerUnreadable
  /-- The answer to `ADD` reports no attachment. -/
  | nothingAdded (network : SelectionKey)
  /-- The plugin gave a reason of its own. -/
  | reported (reason : String)
deriving Repr, DecidableEq

/-- Why a store did not answer or write. -/
inductive StoreFault where
  /-- The version of a pod is no number. -/
  | versionUnreadable (pod : ObjectKey) (version : String)
  | podUnavailable (pod : ObjectKey)
  | podNotWritten (pod : ObjectKey)
  | definitionUnavailable (definition : ObjectKey)
  /-- The store gave a reason of its own. -/
  | reported (reason : String)
deriving Repr, DecidableEq

/-- Why a network namespace is not known. -/
inductive RuntimeFault where
  | unreachable
  | inspectionFailed (container : String)
  | notRunning (container : String)
  /-- The runtime gave a reason of its own. -/
  | reported (reason : String)
deriving Repr, DecidableEq

/-- What went wrong. -/
inductive Fault where
  | invalid (cause : AnnotationFault)
  | notFound (kind : ObjectKind) (key : ObjectKey)
  | delegate (cause : DelegateFault)
  /-- The object was written with a version that is not the stored one. -/
  | conflict (key : ObjectKey) (version : Nat)
  | store (cause : StoreFault)
  /-- The status annotation of a pod was not written. -/
  | statusNotWritten (pod : ObjectKey) (cause : Fault)
  | runtime (cause : RuntimeFault)
deriving Repr, DecidableEq

-- ---------------------------------------------------------------------------
-- Messages
-- ---------------------------------------------------------------------------

/-- The wording of an annotation fault. -/
def AnnotationFault.message : AnnotationFault → String
  | .missing pod =>
    "pod " ++ pod.render ++ " is missing the \"" ++ networksKey ++ "\" annotation"
  | .networksUnreadable => "failed to parse networks annotation as JSON"
  | .manyNamespaces item => "network '" ++ item ++ "' has more than one namespace separator"
  | .manyInterfaces item => "network '" ++ item ++ "' has more than one interface separator"
  | .notALabel part item =>
    "'" ++ part ++ "' in network '" ++ item ++ "' is not a valid DNS-1123 label"
  | .unnamed => "network selection element is missing a name"
  | .notABlock block => "invalid CIDR '" ++ block ++ "' in ips request"
  | .notAMac mac => "invalid MAC address '" ++ mac ++ "'"
  | .statusUnreadable => "failed to parse network-status annotation"
  | .interfaceUnknown network => "no interface name known for network " ++ network
  | .interfaceRecorded interface =>
    "interface " ++ interface ++ " is already recorded in the network status"
  | .interfaceTaken interface pod network =>
    "interface " ++ interface ++ " of pod " ++ pod.render ++ " already belongs to network " ++ network

/-- The wording of a delegate fault. -/
def DelegateFault.message : DelegateFault → String
  | .unreachable => "cannot connect to"
  | .exchangeFailed => "request to multus server failed"
  | .answerCut => "cannot read multus response"
  | .refused command status body =>
    command.render ++ " failed with status " ++ toString status ++ ": " ++ body
  | .answerUnreadable => "invalid response from multus server"
  | .nothingAdded network => "empty ADD result for network " ++ network.render
  | .reported reason => reason

/-- The wording of a store fault. -/
def StoreFault.message : StoreFault → String
  | .versionUnreadable pod version =>
    "pod " ++ pod.render ++ " has a non-numeric resourceVersion " ++ Text.quoted version
  | .podUnavailable pod => "failed to get pod " ++ pod.render
  | .podNotWritten pod => "failed to update pod " ++ pod.render
  | .definitionUnavailable definition =>
    "failed to get network-attachment-definition " ++ definition.render
  | .reported reason => reason

/-- The wording of a runtime fault. -/
def RuntimeFault.message : RuntimeFault → String
  | .unreachable => "failed to connect to Docker"
  | .inspectionFailed container => "failed to inspect container " ++ container
  | .notRunning container => "container " ++ container ++ " has no running process"
  | .reported reason => reason

/-- The wording of a fault. -/
def Fault.message : Fault → String
  | .invalid cause => "invalid annotation: " ++ cause.message
  | .notFound kind key => kind.render ++ " " ++ key.render ++ " not found"
  | .delegate cause => "delegate error: " ++ cause.message
  | .conflict key version =>
    "conflict updating " ++ key.render ++ ": resource version " ++ toString version ++ " is stale"
  | .store cause => "store error: " ++ cause.message
  | .statusNotWritten pod cause =>
    "store error: failed to update the network-status annotation of pod " ++ pod.render ++ ": "
      ++ cause.message
  | .runtime cause => "container runtime error: " ++ cause.message

end NetAttach
