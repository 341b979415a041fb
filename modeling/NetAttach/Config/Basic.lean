-- SUMMARY: The configuration of the controller, where it is read from, and what makes it invalid.
import NetAttach.Config.Environment
import NetAttach.Config.Toml.Parser
import NetAttach.Controller.Worker
import NetAttach.Json.Reader

/-!
# Configuration

Settings come from four sources, each of which stands over those before it: the
defaults, a TOML file, a JSON file and the environment. Names that mean nothing are
passed over. A source that cannot be read and a setting of the wrong kind are told
alike; a configuration that was read may still be invalid.
-/

namespace NetAttach

/-- What serves containers on a node. -/
inductive RuntimeKind where
  | docker
deriving Repr, DecidableEq

/-- The word for a kind of runtime. -/
def RuntimeKind.render : RuntimeKind → String
  | .docker => "docker"

/-- What the controller is told at its start. -/
structure Config where
  runtimeSocket : String
  runtime : RuntimeKind
  pluginSocket : String
  workers : Nat
  conflictRetries : Nat
  /-- The node whose pods are watched; all pods are if there is none. -/
  node : Option String
deriving Repr, DecidableEq

namespace Config

/-- Why there is no configuration. -/
inductive Defect where
  | notLoaded
  | noWorkers
  | noPluginSocket
  | noRuntimeSocket
  | emptyNode
deriving Repr, DecidableEq

/-- The text of a defect. -/
def Defect.message : Defect → String
  | .notLoaded => "Failed to load configuration"
  | .noWorkers => "Invalid configuration: workers must be at least 1"
  | .noPluginSocket => "Invalid configuration: multus_socket_path must not be empty"
  | .noRuntimeSocket => "Invalid configuration: cri_socket_path must not be empty"
  | .emptyNode => "Invalid configuration: node_name must not be empty when set"

-- ---------------------------------------------------------------------------
-- Sources
-- ---------------------------------------------------------------------------

/-- The settings without any source. -/
def defaults : Setting :=
  .ofMembers [
    ("cri_socket_path", .text "/run/docker.sock"),
    ("cri_type", .text RuntimeKind.docker.render),
    ("multus_socket_path", .text "/run/multus/multus.sock"),
    ("workers", .integer 1),
    ("conflict_retries", .integer defaultConflictRetries),
    ("node_name", .null)]

mutual

/-- What a document says as a setting. -/
def ofJson : Json → Setting
  | .null => .null
  | .int i => .integer i
  | .str s => .text s
  | .obj ms => .ofMembers (ofJsonMembers ms)
  | _ => .other

/-- What each member of an object says as a setting. -/
def ofJsonMembers : List (String × Json) → List (String × Setting)
  | [] => []
  | (k, j) :: ms => (k, ofJson j) :: ofJsonMembers ms

end

/-- Read the text of a JSON file, which holds an object. -/
def readJson (s : String) : Option Setting :=
  match Json.decodeText Json.keep s with
  | some (.obj ms) => some (ofJson (.obj ms))
  | _ => none

/-- Put the text of a file, if there is one, over what was read so far. -/
def layer (read : String → Option Setting) (file : Option String) (earlier : Setting) :
    Option Setting :=
  match file with
  | none => some earlier
  | some s => (read s).map earlier.overlay

-- ---------------------------------------------------------------------------
-- Kinds of settings
-- ---------------------------------------------------------------------------

/-- Reads a text. -/
def text : Setting → Option String
  | .text s => some s
  | _ => none

/-- Reads a text or nothing. -/
def optionalText : Setting → Option (Option String)
  | .null => some none
  | v => (text v).map some

/-- Reads an integer from zero up to a bound. -/
def natUpTo (bound : Nat) : Setting → Option Nat
  | .integer (.ofNat n) => if n ≤ bound then some n else none
  | _ => none

/-- Reads a kind of runtime, by its word or by a table with the word as its first name and nothing
under it. -/
def runtimeKind : Setting → Option RuntimeKind
  | .text s => if s = RuntimeKind.docker.render then some .docker else none
  | .table ((k, .null) :: _) => if k = RuntimeKind.docker.render then some .docker else none
  | _ => none

/-- The configuration that settings make up. -/
def ofSetting? (all : Setting) : Option Config := do
  return {
    runtimeSocket := ← all.get? "cri_socket_path" >>= text
    runtime := ← all.get? "cri_type" >>= runtimeKind
    pluginSocket := ← all.get? "multus_socket_path" >>= text
    workers := ← all.get? "workers" >>= natUpTo 0xFFFFFFFFFFFFFFFF
    conflictRetries := ← all.get? "conflict_retries" >>= natUpTo 0xFFFFFFFF
    node := ← all.get? "node_name" >>= optionalText }

-- ---------------------------------------------------------------------------
-- The whole
-- ---------------------------------------------------------------------------

/-- The first thing that is wrong with a configuration. -/
def defect? (c : Config) : Option Defect :=
  if c.workers = 0 then some .noWorkers
  else if c.pluginSocket = "" then some .noPluginSocket
  else if c.runtimeSocket = "" then some .noRuntimeSocket
  else if c.node = some "" then some .emptyNode
  else none

/-- The configuration from the texts of the two files, as far as they exist, and the variables. -/
def load (toml json : Option String) (vars : List (String × String)) : Except Defect Config :=
  let settings := do
    let s ← layer Toml.parse toml defaults
    let s ← layer readJson json s
    return s.overlay (Environment.settings vars)
  match settings >>= ofSetting? with
  | none => .error .notLoaded
  | some c => c.defect?.elim (.ok c) .error

/-- The selector that limits the pods watched to one node. -/
def podSelector? (c : Config) : Option String := c.node.map ("spec.nodeName=" ++ ·)

/-- A configuration is loaded only if nothing is wrong with it. -/
theorem defect?_of_load {toml json : Option String} {vars : List (String × String)} {c : Config}
    (h : load toml json vars = .ok c) : c.defect? = none := by
  simp only [load] at h
  split at h
  · cases h
  · next c' _ =>
    cases hd : c'.defect? with
    | none =>
      rw [hd] at h
      cases h
      exact hd
    | some d =>
      rw [hd] at h
      cases h

end Config

end NetAttach
