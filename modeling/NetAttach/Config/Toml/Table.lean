-- SUMMARY: The tables of a TOML document as they grow line by line, and who may add to which table.
import NetAttach.Config.Setting

/-!
# Growing tables

A line of a document adds a value under a dotted key, or opens a table by its header,
or begins a further table of a list. No name gets a second value, and no table a
second header. A dotted key adds only to tables that dotted keys have made; on its
way it may pass a table that so far only headers have named.
-/

namespace NetAttach.Toml

/-- How a table came into a document. -/
inductive Origin where
  /-- It has a header, or it is the document. -/
  | header
  /-- It is named in the headers of tables inside it. -/
  | passage
  /-- A dotted key has made it. -/
  | dotted
deriving Repr, DecidableEq

/-- What a name stands for. -/
inductive Node where
  | value (v : Setting)
  | table (origin : Origin) (members : List (String × Node))
  /-- A list of tables, of which only the last can still grow; its members are kept. -/
  | tables (last : List (String × Node))
deriving Repr, Inhabited

/-- The members of a table, in the order in which they came. -/
abbrev Members : Type := List (String × Node)

namespace Members

/-- Put another node in the place of a name. -/
def replace (ms : Members) (k : String) (n : Node) : Members :=
  ms.map fun m => if m.1 = k then (k, n) else m

/-- Change the table at the end of a path, given its origin. Tables that are missing on the way are
made with the origin `made`, and dotted keys do not enter a table with a header. -/
def change (made : Origin) (f : Origin → Members → Option Members) :
    Origin → List String → Members → Option Members
  | origin, [], ms => f origin ms
  | _, k :: path, ms =>
    match ms.lookup k with
    | none => do return ms ++ [(k, .table made (← change made f made path []))]
    | some (.value _) => none
    | some (.table origin sub) =>
      if made = .dotted ∧ origin = .header then none
      else do return ms.replace k (.table origin (← change made f origin path sub))
    | some (.tables last) => do return ms.replace k (.tables (← change made f .header path last))

/-- Give a value to a key inside the tables of a path. -/
def put? (path : List String) (k : String) (v : Setting) (ms : Members) : Option Members :=
  change .dotted (fun origin ms =>
      if (path ≠ [] ∧ origin ≠ .dotted) ∨ (ms.lookup k).isSome then none
      else some (ms ++ [(k, .value v)]))
    .header path ms

/-- Open a table by its header. -/
def openTable? (path : List String) (k : String) (ms : Members) : Option Members :=
  change .passage (fun _ ms =>
      match ms.lookup k with
      | none => some (ms ++ [(k, .table .header [])])
      | some (.table .passage sub) => some (ms.replace k (.table .header sub))
      | some _ => none)
    .header path ms

/-- Begin a further table of a list by its header. -/
def extendList? (path : List String) (k : String) (ms : Members) : Option Members :=
  change .passage (fun _ ms =>
      match ms.lookup k with
      | none => some (ms ++ [(k, .tables [])])
      | some (.tables _) => some (ms.replace k (.tables []))
      | some _ => none)
    .header path ms

end Members

-- ---------------------------------------------------------------------------
-- Documents
-- ---------------------------------------------------------------------------

/-- A line of a document. Keys are split at their dots, into the path and the last part. -/
inductive Line where
  | blank
  | member (path : List String) (k : String) (v : Setting)
  | header (path : List String) (k : String)
  | listHeader (path : List String) (k : String)
deriving Repr

/-- A document so far: its members, and the path of the last header. -/
structure Document where
  members : Members
  opened : List String

namespace Document

/-- Nothing has been read. -/
def empty : Document := ⟨[], []⟩

/-- Add a line. -/
def add? (d : Document) : Line → Option Document
  | .blank => some d
  | .member path k v => do
    let members ← Members.change .passage (fun _ ms => ms.put? path k v) .header d.opened d.members
    return { d with members }
  | .header path k => do return ⟨← d.members.openTable? path k, path ++ [k]⟩
  | .listHeader path k => do return ⟨← d.members.extendList? path k, path ++ [k]⟩

/-- The document of these lines. -/
def ofLines? (lines : List Line) : Option Document := lines.foldlM add? empty

end Document

-- ---------------------------------------------------------------------------
-- The settings of a document
-- ---------------------------------------------------------------------------

mutual

/-- What a node says as a setting. -/
def Node.setting : Node → Setting
  | .value v => v
  | .table _ ms => .ofMembers (settings ms)
  | .tables _ => .other

/-- What each member says as a setting. -/
def settings : List (String × Node) → List (String × Setting)
  | [] => []
  | (k, n) :: ms => (k, n.setting) :: settings ms

end

end NetAttach.Toml
