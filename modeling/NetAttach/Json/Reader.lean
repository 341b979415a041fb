-- SUMMARY: Reading JSON documents as values: leaves, lists, dictionaries, and records with named fields.
import NetAttach.Json.Parser

/-!
# Readers

A reader turns a document into a value, or fails. It is told how many more arrays
and objects may be opened inside each other, because a document may nest at most
127 of them; fields that are passed over do not count.

A record is read from an object, in which unknown fields are passed over and a
known field may stand only once, or from an array of its fields in their order,
in which fields at the end may be missing. A field is required, or has a default,
or is optional; only an optional field may be `null`.
-/

namespace NetAttach.Json

/-- How many arrays and objects may be open at once. -/
def maxDepth : Nat := 127

/-- Reads a document inside which a number of arrays and objects may still be opened. -/
abbrev Reader (α : Type) : Type := Nat → Json → Option α

-- ---------------------------------------------------------------------------
-- Leaves
-- ---------------------------------------------------------------------------

/-- Reads a text. -/
def text : Reader String
  | _, .str s => some s
  | _, _ => none

/-- Reads a truth value. -/
def flag : Reader Bool
  | _, .bool b => some b
  | _, _ => none

/-- Reads an integer from zero up to a bound. -/
def natUpTo (bound : Nat) : Reader Nat
  | _, .int (.ofNat n) => if n ≤ bound then some n else none
  | _, _ => none

/-- Reads a natural number of 64 bits. -/
def word : Reader Nat := natUpTo maxWord

/-- Reads an integer within closed bounds. -/
def intWithin (low high : Int) : Reader Int
  | _, .int i => if low ≤ i ∧ i ≤ high then some i else none
  | _, _ => none

-- ---------------------------------------------------------------------------
-- Containers
-- ---------------------------------------------------------------------------

/-- Reads an array of values. -/
def listOf {α : Type} (item : Reader α) : Reader (List α)
  | room + 1, .arr xs => xs.mapM (item room)
  | _, _ => none

/-- Reads an object as a dictionary; the last value of a repeated key stands. -/
def dictOf {α : Type} (value : Reader α) : Reader (Dict α)
  | room + 1, .obj ms => (ms.mapM fun m => (value room m.2).map (m.1, ·)).map Dict.ofList
  | _, _ => none

/-- Reads `null` as nothing. -/
def optional {α : Type} (value : Reader α) : Reader (Option α)
  | _, .null => some none
  | room, j => (value room j).map some

mutual

/-- Reads a document as it is, with the keys of every object in order and each key once. -/
def keep : Reader Json
  | _, .null => some .null
  | _, .bool b => some (.bool b)
  | _, .int i => some (.int i)
  | _, .double d => some (.double d)
  | _, .str s => some (.str s)
  | room + 1, .arr xs => (keepItems room xs).map .arr
  | room + 1, .obj ms => (keepMembers room ms).map fun ms => ofDict (Dict.ofList ms)
  | 0, .arr _ => none
  | 0, .obj _ => none
  | _, .unusable => none

/-- Reads every item as it is. -/
def keepItems (room : Nat) : List Json → Option (List Json)
  | [] => some []
  | x :: xs => do return (← keep room x) :: (← keepItems room xs)

/-- Reads every member as it is. -/
def keepMembers (room : Nat) : List (String × Json) → Option (List (String × Json))
  | [] => some []
  | (k, v) :: ms => do return (k, ← keep room v) :: (← keepMembers room ms)

end

-- ---------------------------------------------------------------------------
-- Records
-- ---------------------------------------------------------------------------

/-- The fields of a record that are present, ready to be read one by one. -/
structure Fields where
  /-- How many arrays and objects may be opened inside a field. -/
  room : Nat
  present : List (String × Json)

/-- Whether all keys differ. -/
def distinctKeys : List (String × Json) → Bool
  | [] => true
  | m :: ms => !(ms.any fun m' => m'.1 == m.1) && distinctKeys ms

/-- The fields of a record with these names, from an object. -/
def objectFields (names : List String) (room : Nat) (ms : List (String × Json)) : Option Fields :=
  let known := ms.filter fun m => names.contains m.1
  if distinctKeys known then some ⟨room, known⟩ else none

/-- The fields of a record with these names, from an object or from an array in their order. -/
def recordFields (names : List String) : Reader Fields
  | room + 1, .obj ms => objectFields names room ms
  | room + 1, .arr xs => if xs.length ≤ names.length then some ⟨room, names.zip xs⟩ else none
  | _, _ => none

/-- A field that must be present. -/
def Fields.required {α : Type} (f : Fields) (name : String) (value : Reader α) : Option α :=
  f.present.lookup name >>= value f.room

/-- A field with a value to take when it is absent. -/
def Fields.default {α : Type} (f : Fields) (name : String) (value : Reader α) (absent : α) :
    Option α :=
  match f.present.lookup name with
  | some j => value f.room j
  | none => some absent

/-- A field that may be absent or `null`. -/
def Fields.optional {α : Type} (f : Fields) (name : String) (value : Reader α) :
    Option (Option α) :=
  f.default name (Json.optional value) none

-- ---------------------------------------------------------------------------
-- Whole documents
-- ---------------------------------------------------------------------------

/-- Read a document as a value. -/
def decode {α : Type} (value : Reader α) (j : Json) : Option α := value maxDepth j

/-- Read a text as a value. -/
def decodeText {α : Type} (value : Reader α) (s : String) : Option α :=
  parse s >>= decode value

end NetAttach.Json
