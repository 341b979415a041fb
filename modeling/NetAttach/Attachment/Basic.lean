-- SUMMARY: Recorded attachments: what the status annotation holds, and which of them a selection refers to.
import NetAttach.Selection.Basic
import NetAttach.Plugin.Result
import NetAttach.Text.Split

/-!
# Attachments

An attachment records that an interface of a pod is attached to a network. A
selection that asks for an interface refers to the attachment of its network with
that interface; one that asks for none refers to any attachment of its network
whose interface no selection of the pod asks for.
-/

namespace NetAttach

/-- One recorded attachment. -/
structure Attachment where
  /-- The network as `namespace/name`. -/
  network : String
  interface : String
  ips : List String
  mac : String
  isDefault : Bool
  dns : Plugin.Dns
  /-- Fields that other components wrote, which are kept as they are. -/
  extra : Dict Json
deriving DecidableEq, Inhabited

namespace Attachment

-- ---------------------------------------------------------------------------
-- Records
-- ---------------------------------------------------------------------------

/-- The fields with a meaning of their own. -/
def knownFields : List String := ["name", "interface", "ips", "mac", "default", "dns"]

/-- Reads an attachment from an object. All fields without a meaning of their own are kept. -/
def read : Json.Reader Attachment
  | room + 1, .obj ms => do
    let f ← Json.objectFields knownFields room ms
    let others ← Json.keepMembers room (ms.filter fun m => !knownFields.contains m.1)
    return {
      network := ← f.required "name" Json.text
      interface := ← f.default "interface" Json.text ""
      ips := ← f.default "ips" (Json.listOf Json.text) []
      mac := ← f.default "mac" Json.text ""
      isDefault := ← f.default "default" Json.flag false
      dns := ← f.default "dns" Plugin.Dns.read Plugin.Dns.empty
      extra := Dict.ofList others }
  | _, _ => none

/-- Empty fields are left out; the kept fields come last. -/
def toJson (a : Attachment) : Json :=
  .record ([
    Json.member "name" (.str a.network),
    Json.memberUnless (a.interface == "") "interface" (.str a.interface),
    Json.memberUnless a.ips.isEmpty "ips" (.texts a.ips),
    Json.memberUnless (a.mac == "") "mac" (.str a.mac),
    Json.memberUnless (!a.isDefault) "default" (.bool a.isDefault),
    Json.memberUnless a.dns.isEmpty "dns" a.dns.toJson]
    ++ a.extra.entries.map some)

-- ---------------------------------------------------------------------------
-- Which attachment a selection refers to
-- ---------------------------------------------------------------------------

/-- The attachment is one that the selection may refer to, given all selections of the pod. -/
def matchesSelection (a : Attachment) (s : Selection) (all : List Selection) : Bool :=
  a.network == s.network
    && match s.interface? with
      | some i => a.interface == i
      | none => !all.any fun t => t.interface? == some a.interface

/-- The attachment that a selection refers to: the first that it may refer to. -/
def find? (recorded : List Attachment) (s : Selection) (all : List Selection) :
    Option Attachment :=
  recorded.find? fun a => a.matchesSelection s all

-- ---------------------------------------------------------------------------
-- The attachment that a plugin made
-- ---------------------------------------------------------------------------

/-- The position of the interface inside the pod: the first with a sandbox, else the first. -/
def mainInterface? (interfaces : List Plugin.Interface) : Option Nat :=
  match interfaces.findIdx? fun i => i.sandbox != "" with
  | some n => some n
  | none => if interfaces.isEmpty then none else some 0

/-- An address without the length of its subnet. -/
def bareAddress (address : String) : String :=
  match Text.splitOnce '/' address.toList with
  | some (a, _) => String.ofList a
  | none => address

/-- The attachment to record for a selection after the plugin has made it. The name of the interface
is the reported one, or else the one asked for. Addresses of other interfaces are left out. -/
def ofResult (s : Selection) (r : Plugin.Result) : Attachment :=
  let main := mainInterface? r.interfaces
  let interface? := main.bind (r.interfaces[·]?)
  let wanted := s.interface?.getD ""
  { network := s.network
    interface :=
      match interface? with
      | some i => if i.name = "" then wanted else i.name
      | none => wanted
    ips := (r.ips.filter fun ip => ip.interface.isNone || ip.interface == main).map
      fun ip => bareAddress ip.address
    mac := (interface?.map (·.mac)).getD ""
    isDefault := false
    dns := r.dns
    extra := ∅ }

end Attachment

end NetAttach
