-- SUMMARY: A call is recovered from the bytes that are posted for it.
import NetAttach.Plugin.Server
import NetAttach.Proofs.Bytes
import NetAttach.Proofs.JsonReader
import NetAttach.Proofs.Pieces

/-!
# Posted calls

What the plugin server gets is the text of a document in UTF-8. It finds the command, the
container, its namespace and the interface among the environment variables, the pod in the
extra arguments, the configuration behind its base64 letters, and the wanted addresses if
there are any. This is the call, as long as no semicolon stands in what the extra arguments
are made of: the values of the arguments are not escaped.
-/

namespace NetAttach.Plugin

open Json Text

/-! ## Extra arguments -/

/-- Named arguments as characters. -/
def joinArgs (args : List (String × String)) : List Char :=
  [';'].intercalate (args.map fun a => a.1.toList ++ '=' :: a.2.toList)

/-- The arguments in a text: it is cut at every semicolon, and each piece at its first equality
sign. -/
def readArgs (s : String) : List (String × String) :=
  (splitAll ';' s.toList).filterMap fun p =>
    (splitOnce '=' p).map fun a => (String.ofList a.1, String.ofList a.2)

/-- Arguments are read again if no semicolon stands in them, and no equality sign in their names. -/
theorem readArgs_of_joinArgs {s : String} {args : List (String × String)}
    (joined : s.toList = joinArgs args) (some_arg : args ≠ [])
    (names : ∀ a ∈ args, '=' ∉ a.1.toList)
    (apart : ∀ a ∈ args, ';' ∉ a.1.toList ∧ ';' ∉ a.2.toList) : readArgs s = args := by
  have pieces : splitAll ';' s.toList = args.map fun a => a.1.toList ++ '=' :: a.2.toList := by
    rw [joined]
    refine splitAll_intercalate (by simpa using some_arg) fun p piece => ?_
    obtain ⟨a, mem, rfl⟩ := List.mem_map.1 piece
    simpa using apart a mem
  have cut : ∀ a ∈ args, (splitOnce '=' (a.1.toList ++ '=' :: a.2.toList)).map
      (fun a => (String.ofList a.1, String.ofList a.2)) = some a := by
    intro a mem
    rw [splitOnce_append (names a mem)]
    simp
  rw [readArgs, pieces, List.filterMap_map]
  exact (List.filterMap_congr cut).trans List.filterMap_some

namespace Call

/-- No part of the extra arguments of a call holds the separator between them. -/
structure Separable (c : Call) : Prop where
  podSpace : ';' ∉ c.podSpace.toList
  podName : ';' ∉ c.podName.toList
  podUid : ';' ∉ c.podUid.toList
  containerId : ';' ∉ c.containerId.toList

/-- The extra arguments of a call with their names. -/
def namedArgs (c : Call) : List (String × String) :=
  [("IgnoreUnknown", "true"), ("K8S_POD_NAMESPACE", c.podSpace), ("K8S_POD_NAME", c.podName),
    ("K8S_POD_INFRA_CONTAINER_ID", c.containerId), ("K8S_POD_UID", c.podUid)]

theorem toList_args (c : Call) : c.args.toList = joinArgs c.namedArgs := by
  unfold args joinArgs namedArgs
  simp [List.intercalate_cons_cons]

theorem Separable.readArgs_args {c : Call} (h : c.Separable) : readArgs c.args = c.namedArgs := by
  refine readArgs_of_joinArgs c.toList_args nofun ?_ ?_
  · simp [namedArgs]
  · simp [namedArgs, h.podSpace, h.podName, h.podUid, h.containerId]

end Call

/-! ## The receiving end -/

/-- The command that is written in capitals. -/
def Command.read? (s : String) : Option Command :=
  if s = "ADD" then some .add else if s = "DEL" then some .del else none

theorem Command.read?_render (c : Command) : read? c.render = some c := by
  cases c <;> rfl

/-- Reads the wanted addresses of a call. -/
def readWanted : Reader (List String × Option String) := fun room j => do
  let f ← recordFields ["ipRequest", "macRequest"] room j
  return (← f.default "ipRequest" (listOf text) [], ← f.optional "macRequest" text)

/-- The call that environment variables tell, given the configuration and the wanted addresses. -/
def Call.ofEnv (env : Dict String) (config : List UInt8) (wanted : List String × Option String) :
    Option Call := do
  let args := readArgs (← env.get? "CNI_ARGS")
  return {
    command := ← Command.read? (← env.get? "CNI_COMMAND")
    containerId := ← env.get? "CNI_CONTAINERID"
    netns := ← env.get? "CNI_NETNS"
    interface := ← env.get? "CNI_IFNAME"
    podSpace := ← args.lookup "K8S_POD_NAMESPACE"
    podName := ← args.lookup "K8S_POD_NAME"
    podUid := ← args.lookup "K8S_POD_UID"
    config := config
    ips := wanted.1
    mac := wanted.2 }

/-- Reads a call from the document that is posted for it. -/
def Call.read : Reader Call := fun room j => do
  let f ← recordFields ["env", "config", "interfaceAttributes"] room j
  let env ← f.required "env" (dictOf text)
  let letters ← f.required "config" text
  let wanted ← f.default "interfaceAttributes" readWanted ([], none)
  ofEnv env (← Base64.decode? letters.toList) wanted

namespace Call

/-- The wanted addresses as they are written. -/
def wantedMembers (c : Call) : List (Option (String × Json)) := [
  memberUnless c.ips.isEmpty "ipRequest" (.texts c.ips),
  member? "macRequest" (c.mac.map .str)]

theorem named_wantedMembers (c : Call) : Named ["ipRequest", "macRequest"] c.wantedMembers :=
  .cons named_memberUnless (.cons named_member? .nil)

theorem rereads_wanted (c : Call) (room : Nat) :
    readWanted (room + 2) c.wanted = some (c.ips, c.mac) := by
  obtain ⟨f, fields, hroom, present⟩ : ∃ f : Fields,
      recordFields ["ipRequest", "macRequest"] (room + 2) c.wanted = some f ∧ f.room = room + 1
        ∧ f.present = c.wantedMembers.filterMap id :=
    ⟨_, recordFields_record (by decide) c.named_wantedMembers (room + 1), rfl, rfl⟩
  have lookup (k : String) := congrArg (List.lookup k) present
  simp only [wantedMembers, lookup_memberUnless, lookup_member?, List.filterMap_nil,
    List.lookup_nil] at lookup
  have ips := default_of_lookup (f := f) (k := "ipRequest") (a := []) (x := c.ips)
    (r := listOf text) (by simp [lookup]) (hroom ▸ listOf_texts room c.ips)
    fun h => (List.isEmpty_iff.1 h).symm
  have mac := optional_of_lookup (f := f) (k := "macRequest") (x := c.mac) (r := text) (w := .str)
    (by cases h : c.mac <;> simp [lookup, h]) (fun _ _ => rfl) nofun
  rw [readWanted, fields]
  simp [ips, mac]

theorem printable_wanted (c : Call) : c.wanted.Printable := by
  refine printable_record ?_
  simp only [List.forall_mem_cons]
  exact ⟨printable_memberUnless (printable_texts _), printable_option fun _ _ => printable_str _,
    nofun⟩

/-- The environment variables of a call are read as they were written. -/
theorem rereads_env (c : Call) (room : Nat) : Rereads (dictOf text)
    (fun d => .obj (d.entries.map fun e => (e.1, .str e.2))) (room + 1) c.env :=
  .dict fun e _ => rereads_text e.2

theorem get?_env (c : Call) (k : String) : c.env.get? k
    = if k = "CNI_ARGS" then some c.args
      else if k = "CNI_IFNAME" then some c.interface
      else if k = "CNI_NETNS" then some c.netns
      else if k = "CNI_CONTAINERID" then some c.containerId
      else if k = "CNI_COMMAND" then some c.command.render
      else none := by
  simp only [env, Dict.ofList, List.foldl_cons, List.foldl_nil, Dict.get?_insert, Dict.get?_empty]

/-- The environment variables of a call tell the call. -/
theorem Separable.ofEnv_env {c : Call} (h : c.Separable) :
    ofEnv c.env c.config (c.ips, c.mac) = some c := by
  have podSpace : c.namedArgs.lookup "K8S_POD_NAMESPACE" = some c.podSpace := rfl
  have podName : c.namedArgs.lookup "K8S_POD_NAME" = some c.podName := rfl
  have podUid : c.namedArgs.lookup "K8S_POD_UID" = some c.podUid := rfl
  simp [ofEnv, get?_env, h.readArgs_args, podSpace, podName, podUid, Command.read?_render]

/-- The parts of the document of a call as they are written. -/
def members (c : Call) : List (Option (String × Json)) := [
  member "env" (.obj (c.env.entries.map fun e => (e.1, .str e.2))),
  member "config" (.str (String.ofList (Text.Base64.encode c.config))),
  memberUnless (c.ips.isEmpty && c.mac.isNone) "interfaceAttributes" c.wanted]

theorem named_members (c : Call) : Named ["env", "config", "interfaceAttributes"] c.members :=
  .cons (by rintro _ ⟨⟩; rfl) (.cons (by rintro _ ⟨⟩; rfl) (.cons named_memberUnless .nil))

/-- A call is read again from its document. -/
theorem Separable.rereads {c : Call} (h : c.Separable) (room : Nat) :
    Rereads read body (room + 3) c := by
  refine ⟨?_, printable_record ?_⟩
  · obtain ⟨f, fields, hroom, present⟩ : ∃ f : Fields,
        recordFields ["env", "config", "interfaceAttributes"] (room + 3) c.body = some f
          ∧ f.room = room + 2 ∧ f.present = c.members.filterMap id :=
      ⟨_, recordFields_record (by decide) c.named_members (room + 2), rfl, rfl⟩
    have lookup (k : String) := congrArg (List.lookup k) present
    simp only [members, lookup_member, lookup_memberUnless, List.filterMap_nil,
      List.lookup_nil] at lookup
    have env : f.required "env" (dictOf text) = some c.env := by
      simp [Fields.required, lookup, hroom, (c.rereads_env (room + 1)).read]
    have config : f.required "config" text = some (String.ofList (Base64.encode c.config)) := by
      simp [Fields.required, lookup, text]
    have wanted := default_of_lookup (f := f) (k := "interfaceAttributes") (a := ([], none))
      (r := readWanted) (x := (c.ips, c.mac)) (e := c.ips.isEmpty && c.mac.isNone)
      (by simp [lookup]) (hroom ▸ c.rereads_wanted room) (by simp_all)
    rw [read, fields]
    simp [env, config, wanted, Base64.decode?_encode, h.ofEnv_env]
  · simp only [List.forall_mem_cons]
    exact ⟨printable_member (c.rereads_env room).printable, printable_member (printable_str _),
      printable_memberUnless c.printable_wanted, nofun⟩

/-- What is read from the bytes that are posted for a call is its document. -/
theorem Separable.parseBytes_posted {c : Call} (h : c.Separable) :
    Json.parseBytes c.posted = some c.body := by
  rw [posted, Json.parseBytes_encode, Json.parse, Json.render, String.toList_ofList]
  exact parseChars_render c.body (h.rereads 0).printable

/-- The wanted addresses are left out if there are none. -/
theorem get?_body (c : Call) : c.body.get? "interfaceAttributes"
    = if c.ips = [] ∧ c.mac = none then none else some c.wanted := by
  by_cases nothing : c.ips = [] ∧ c.mac = none <;>
    simp_all [body, Json.record, Json.get?, Json.member, Json.memberUnless]

theorem get?_wanted (c : Call) : (c.wanted.get? "ipRequest" = none ↔ c.ips = [])
    ∧ (c.wanted.get? "macRequest" = none ↔ c.mac = none) := by
  cases ips : c.ips <;> cases mac : c.mac <;>
    simp [wanted, Json.record, Json.get?, Json.member?, Json.memberUnless, ips, mac]

/-- A call in whose extra arguments no semicolon stands is recovered from the bytes that are posted
for it. The wanted addresses are absent if there are none, and so is each kind of them. Different
calls are posted as different bytes. -/
theorem posted_call_is_recovered (c : Call) (separable : c.Separable) :
    (∃ document, Json.parseBytes c.posted = some document
      ∧ Json.decode read document = some c
      ∧ (document.get? "interfaceAttributes" = none ↔ c.ips = [] ∧ c.mac = none)
      ∧ ∀ wanted, document.get? "interfaceAttributes" = some wanted →
        (wanted.get? "ipRequest" = none ↔ c.ips = [])
        ∧ (wanted.get? "macRequest" = none ↔ c.mac = none))
    ∧ ∀ d : Call, d.Separable → d.posted = c.posted → d = c := by
  have whole : Json.decode read c.body = some c := (separable.rereads 124).read
  refine ⟨⟨c.body, separable.parseBytes_posted, whole, ?_, fun wanted here => ?_⟩,
    fun d hd same => ?_⟩
  · simp [get?_body]
  · have : c.wanted = wanted := by
      rw [get?_body] at here
      split at here
      · cases here
      · exact Option.some.inj here
    exact this ▸ c.get?_wanted
  · have bodies : some d.body = some c.body := by
      rw [← hd.parseBytes_posted, ← separable.parseBytes_posted, same]
    have read_d : Json.decode read d.body = some d := (hd.rereads 124).read
    rw [Option.some.inj bodies, whole] at read_d
    exact (Option.some.inj read_d).symm

/-- A call with equality signs, quotes, empty texts and letters beyond ASCII, and four bytes of
configuration. -/
private def oddCall : Call where
  command := .del
  containerId := "c=1"
  netns := ""
  interface := "net\"1\""
  podSpace := ""
  podName := "k8s=päd"
  podUid := "="
  config := [0x7B, 0xFF, 0x00, 0x7D]
  ips := ["10.0.0.5/24", ""]
  mac := none

theorem odd_call_is_recovered :
    oddCall.Separable ∧ ∃ document, Json.parseBytes oddCall.posted = some document
      ∧ Json.decode read document = some oddCall := by
  have separable : oddCall.Separable := by constructor <;> decide
  obtain ⟨⟨document, parsed, decoded, -⟩, -⟩ := posted_call_is_recovered oddCall separable
  exact ⟨separable, document, parsed, decoded⟩

/-- With a semicolon in the name of a pod, other pods have the same extra arguments. -/
example : let c (space name : String) : Call :=
      ⟨.add, "c1", "/ns", "net1", space, name, "u1", [], [], none⟩
    (c "a" "b;K8S_POD_NAME=d").args = (c "a;K8S_POD_NAME=b" "d").args := by
  decide

end Call

end NetAttach.Plugin
