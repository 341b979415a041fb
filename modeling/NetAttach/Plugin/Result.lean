-- SUMMARY: What the network plugin reports: interfaces, addresses, routes and name servers, with their records.
import NetAttach.Json.Reader
import NetAttach.Json.Printer

/-!
# Plugin results

The result of attaching a pod to a network. An interface with a sandbox lies inside
the pod; one without lies on the host. An address may say by position which
interface it belongs to.
-/

namespace NetAttach.Plugin

-- ---------------------------------------------------------------------------
-- Parts
-- ---------------------------------------------------------------------------

/-- An interface that the plugin made or used. -/
structure Interface where
  name : String
  mac : String
  sandbox : String
deriving Repr, DecidableEq, Inhabited

/-- Reads an interface from a record. -/
def Interface.read : Json.Reader Interface := fun room j => do
  let f ← Json.recordFields ["name", "mac", "sandbox"] room j
  return {
    name := ← f.required "name" Json.text
    mac := ← f.default "mac" Json.text ""
    sandbox := ← f.default "sandbox" Json.text "" }

def Interface.toJson (i : Interface) : Json :=
  .record [
    Json.member "name" (.str i.name),
    Json.member "mac" (.str i.mac),
    Json.member "sandbox" (.str i.sandbox)]

/-- An address that the plugin assigned. -/
structure Address where
  address : String
  gateway : Option String
  /-- The position of the interface it belongs to. -/
  interface : Option Nat
deriving Repr, DecidableEq, Inhabited

/-- Reads an address from a record. -/
def Address.read : Json.Reader Address := fun room j => do
  let f ← Json.recordFields ["address", "gateway", "interface"] room j
  return {
    address := ← f.required "address" Json.text
    gateway := ← f.optional "gateway" Json.text
    interface := ← f.optional "interface" Json.word }

def Address.toJson (a : Address) : Json :=
  .record [
    Json.member "address" (.str a.address),
    Json.member? "gateway" (a.gateway.map .str),
    Json.member? "interface" (a.interface.map fun n => .int n)]

/-- A route that the plugin set. -/
structure Route where
  dst : String
  gw : Option String
deriving Repr, DecidableEq, Inhabited

/-- Reads a route from a record. -/
def Route.read : Json.Reader Route := fun room j => do
  let f ← Json.recordFields ["dst", "gw"] room j
  return { dst := ← f.required "dst" Json.text, gw := ← f.optional "gw" Json.text }

def Route.toJson (r : Route) : Json :=
  .record [Json.member "dst" (.str r.dst), Json.member? "gw" (r.gw.map .str)]

/-- How names are looked up in a network. -/
structure Dns where
  nameservers : List String
  domain : Option String
  search : List String
  options : List String
deriving Repr, DecidableEq, Inhabited

namespace Dns

def empty : Dns := ⟨[], none, [], []⟩

def isEmpty (d : Dns) : Bool :=
  d.nameservers.isEmpty && d.domain.isNone && d.search.isEmpty && d.options.isEmpty

/-- Reads name lookup from a record. -/
def read : Json.Reader Dns := fun room j => do
  let f ← Json.recordFields ["nameservers", "domain", "search", "options"] room j
  return {
    nameservers := ← f.default "nameservers" (Json.listOf Json.text) []
    domain := ← f.optional "domain" Json.text
    search := ← f.default "search" (Json.listOf Json.text) []
    options := ← f.default "options" (Json.listOf Json.text) [] }

def toJson (d : Dns) : Json :=
  .record [
    Json.memberUnless d.nameservers.isEmpty "nameservers" (.texts d.nameservers),
    Json.member? "domain" (d.domain.map .str),
    Json.memberUnless d.search.isEmpty "search" (.texts d.search),
    Json.memberUnless d.options.isEmpty "options" (.texts d.options)]

end Dns

-- ---------------------------------------------------------------------------
-- Results and responses
-- ---------------------------------------------------------------------------

/-- The result of one command. -/
structure Result where
  cniVersion : String
  interfaces : List Interface
  ips : List Address
  routes : List Route
  dns : Dns
deriving Repr, DecidableEq, Inhabited

/-- Reads a result from a record. -/
def Result.read : Json.Reader Result := fun room j => do
  let f ← Json.recordFields ["cniVersion", "interfaces", "ips", "routes", "dns"] room j
  return {
    cniVersion := ← f.default "cniVersion" Json.text ""
    interfaces := ← f.default "interfaces" (Json.listOf Interface.read) []
    ips := ← f.default "ips" (Json.listOf Address.read) []
    routes := ← f.default "routes" (Json.listOf Route.read) []
    dns := ← f.default "dns" Dns.read Dns.empty }

def Result.toJson (r : Result) : Json :=
  .record [
    Json.member "cniVersion" (.str r.cniVersion),
    Json.member "interfaces" (.arr (r.interfaces.map Interface.toJson)),
    Json.member "ips" (.arr (r.ips.map Address.toJson)),
    Json.member "routes" (.arr (r.routes.map Route.toJson)),
    Json.member "dns" r.dns.toJson]

/-- The answer of the plugin server, which need not hold a result. -/
structure Response where
  result : Option Result
deriving Repr, DecidableEq, Inhabited

/-- Reads a response from a record. -/
def Response.read : Json.Reader Response := fun room j => do
  let f ← Json.recordFields ["result"] room j
  return { result := ← f.optional "result" Result.read }

def Response.toJson (r : Response) : Json :=
  .record [Json.member "result" ((r.result.map Result.toJson).getD .null)]

end NetAttach.Plugin
