-- SUMMARY: Reading the networks annotation, in its short form and as JSON.
import NetAttach.Selection.Basic
import NetAttach.Network.Address
import NetAttach.Text.Blank
import NetAttach.Fault

/-!
# The networks annotation

The annotation lists selections either as a JSON array or in the short form
`[<namespace>/]<name>[@<interface>]`, with commas between them. A bracket, a brace or
a double quote anywhere makes it JSON. A selection without a namespace is for a
network in the namespace of the pod.
-/

namespace NetAttach.Selection

open NetAttach.Text NetAttach.Network

-- ---------------------------------------------------------------------------
-- The short form
-- ---------------------------------------------------------------------------

/-- Refuse a part that is neither empty nor a DNS label. -/
def checkPart (item part : List Char) : Except AnnotationFault Unit :=
  if part = [] ∨ isLabel part then .ok ()
  else .error (.notALabel (String.ofList part) (String.ofList item))

/-- Read one network of the short form. -/
def ofItem (item : List Char) : Except AnnotationFault Selection :=
  if 1 < item.count '/' then .error (.manyNamespaces (String.ofList item))
  else if 1 < item.count '@' then .error (.manyInterfaces (String.ofList item))
  else
    let (network, interface) :=
      match splitOnce '@' item with
      | some (network, interface) => (network, some (String.ofList interface))
      | none => (item, none)
    let (space, name) := (splitOnce '/' network).getD ([], network)
    do
      checkPart item space
      checkPart item name
      return { name := String.ofList name, space := String.ofList space,
               interfaceRequest := interface, ips := [], mac := none, defaultRoute := [],
               cniArgs := none }

-- ---------------------------------------------------------------------------
-- Completion
-- ---------------------------------------------------------------------------

/-- A selection must have a name, and the addresses it asks for must be well formed. -/
def validate (s : Selection) : Except AnnotationFault Unit :=
  if s.name = "" then .error .unnamed
  else
    match s.ips.find? fun ip => !isBlock ip.toList with
    | some ip => .error (.notABlock ip)
    | none =>
      match s.mac with
      | some mac => if isMac mac.toList then .ok () else .error (.notAMac mac)
      | none => .ok ()

/-- A selection without a namespace is for a network in the default one. -/
def inSpace (default : String) (s : Selection) : Selection :=
  if s.space = "" then { s with space := default } else s

/-- Give every selection a namespace and check it. -/
def complete (default : String) (ss : List Selection) : Except AnnotationFault (List Selection) :=
  ss.mapM fun s => do
    (s.inSpace default).validate
    return s.inSpace default

-- ---------------------------------------------------------------------------
-- The annotation
-- ---------------------------------------------------------------------------

/-- A character that the short form never holds. -/
def isJsonMark (c : Char) : Bool := c = '[' || c = '\x7b' || c = '\x22'

/-- Read the text of a networks annotation, given the namespace of its pod. -/
def parseList (raw default : String) : Except AnnotationFault (List Selection) :=
  let text := trimChars raw.toList
  if text = [] then .ok []
  else if text.any isJsonMark then
    match Json.parseChars text >>= Json.decode (Json.listOf read) with
    | some ss => complete default ss
    | none => .error .networksUnreadable
  else do complete default (← (splitAll ',' text).mapM fun item => ofItem (trimChars item))

/-- The attachments that a pod is to have. A pod must have the annotation. -/
def ofPod (pod : Pod) : Except AnnotationFault (List Selection) :=
  match pod.annotated? networksKey with
  | some raw => parseList raw pod.space
  | none => .error (.missing pod.key)

end NetAttach.Selection
