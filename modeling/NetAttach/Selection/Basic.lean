-- SUMMARY: Wanted attachments: what the networks annotation asks for, and the key that tells two of them apart.
import NetAttach.Json.Reader
import NetAttach.Json.Printer

/-!
# Selections

A selection asks for one attachment of a pod to a network. Its key is the network
and the interface it asks for by name, if it does; an empty interface asks for
none. Lists of selections are compared by their keys alone.
-/

namespace NetAttach

/-- The identity of a selection. -/
structure SelectionKey where
  space : String
  name : String
  interface : Option String
deriving Repr, DecidableEq, Inhabited

/-- A key as `namespace/name`, with the interface behind it if there is one. -/
def SelectionKey.render (k : SelectionKey) : String :=
  match k.interface with
  | some i => k.space ++ "/" ++ k.name ++ "/" ++ i
  | none => k.space ++ "/" ++ k.name

/-- One wanted attachment. -/
structure Selection where
  name : String
  /-- The namespace of the network's definition. -/
  space : String
  interfaceRequest : Option String
  /-- The wanted addresses, each with the length of its subnet. -/
  ips : List String
  mac : Option String
  defaultRoute : List String
  cniArgs : Option (Dict Json)
deriving DecidableEq, Inhabited

namespace Selection

/-- The interface that is asked for by name. -/
def interface? (s : Selection) : Option String :=
  match s.interfaceRequest with
  | some i => if i = "" then none else some i
  | none => none

def key (s : Selection) : SelectionKey := ⟨s.space, s.name, s.interface?⟩

/-- The network as `namespace/name`. -/
def network (s : Selection) : String := s.space ++ "/" ++ s.name

-- ---------------------------------------------------------------------------
-- Records
-- ---------------------------------------------------------------------------

/-- Reads a selection from a record. -/
def read : Json.Reader Selection := fun room j => do
  let f ← Json.recordFields
    ["name", "namespace", "interface", "ips", "mac", "default-route", "cni-args"] room j
  return {
    name := ← f.required "name" Json.text
    space := ← f.default "namespace" Json.text ""
    interfaceRequest := ← f.optional "interface" Json.text
    ips := ← f.default "ips" (Json.listOf Json.text) []
    mac := ← f.optional "mac" Json.text
    defaultRoute := ← f.default "default-route" (Json.listOf Json.text) []
    cniArgs := ← f.optional "cni-args" (Json.dictOf Json.keep) }

/-- Empty fields are left out, an empty interface is not. -/
def toJson (s : Selection) : Json :=
  .record [
    Json.member "name" (.str s.name),
    Json.memberUnless (s.space == "") "namespace" (.str s.space),
    Json.member? "interface" (s.interfaceRequest.map .str),
    Json.memberUnless s.ips.isEmpty "ips" (.texts s.ips),
    Json.member? "mac" (s.mac.map .str),
    Json.memberUnless s.defaultRoute.isEmpty "default-route" (.texts s.defaultRoute),
    Json.member? "cni-args" (s.cniArgs.map .ofDict)]

/-- Equality as data, for which the two zeros of `cni-args` are one number. -/
def sameValue (a b : Selection) : Bool :=
  { a with cniArgs := none } == { b with cniArgs := none }
    && match a.cniArgs, b.cniArgs with
      | none, none => true
      | some x, some y => (Json.ofDict x).sameValue (.ofDict y)
      | _, _ => false

-- ---------------------------------------------------------------------------
-- Comparing lists
-- ---------------------------------------------------------------------------

/-- The selections whose key does not occur in the other list, in order. -/
def notIn (wanted known : List Selection) : List Selection :=
  wanted.filter fun s => !(known.map key).contains s.key

theorem mem_notIn {wanted known : List Selection} {s : Selection} :
    s ∈ notIn wanted known ↔ s ∈ wanted ∧ s.key ∉ known.map key := by
  simp [notIn]

end Selection

end NetAttach
