-- SUMMARY: The network namespace of a container, as the container daemon tells.
import NetAttach.Container.Description
import NetAttach.Fault
import NetAttach.Network.Http
import NetAttach.Text.Utf8

/-!
# Inspecting containers

A container runs if the state in its description has a process with a positive number,
which leads to the network namespace.
-/

namespace NetAttach.Container

-- ---------------------------------------------------------------------------
-- Looking into descriptions
-- ---------------------------------------------------------------------------

/-- The value of a field of a record, which is an object or an array of the fields in their order. -/
def fieldAt? (fields : List (String × Json.Shape)) (name : String) : Json → Option Json
  | .arr xs => ((fields.map (·.1)).zip xs).lookup name
  | j => j.get? name

/-- The number of the process in the description of a container, unless something in it has the wrong
shape. There need not be a process. -/
def readProcess (j : Json) : Option (Option Int) :=
  if description.describes j then
    some (match fieldAt? descriptionFields "State" j >>= fieldAt? stateFields "Pid" with
      | some (.int process) => some process
      | _ => none)
  else none

-- ---------------------------------------------------------------------------
-- Network namespaces
-- ---------------------------------------------------------------------------

/-- The network namespace of a process. -/
def netnsOfProcess (process : Int) : Option String :=
  if 0 < process then some ("/proc/" ++ toString process ++ "/ns/net") else none

/-- The network namespace in the description of a container. -/
def netnsOfDescription (container : String) (body : List UInt8) : Except RuntimeFault String :=
  match Json.parseBytes body >>= readProcess with
  | none => .error (.inspectionFailed container)
  | some process =>
    match netnsOfProcess (process.getD 0) with
    | some path => .ok path
    | none => .error (.notRunning container)

/-- The network namespace of a container, from the answer to its inspection. -/
def netns (container : String) : Network.Exchanged → Except RuntimeFault String
  | .unreachable => .error .unreachable
  | .broken | .cut => .error (.inspectionFailed container)
  | .answered status body =>
    if Network.isSuccess status then netnsOfDescription container body
    else .error (.inspectionFailed container)

end NetAttach.Container
