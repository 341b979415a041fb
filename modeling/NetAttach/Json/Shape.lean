-- SUMMARY: Shapes, which say what documents of a kind look like, and whether a document has a shape.
import NetAttach.Json.Reader

/-!
# Shapes

A server describes things in large documents, of which only a few fields are wanted;
still a document with a field of the wrong kind is refused as a whole. A shape says
what all the fields have to look like. Records come in two conventions: the fields of a
strict record stand only once, or in an array in their order; the members of a loose
object may be repeated, and each of them counts. Of members that a loose object does not
know nothing is asked, and they are lost when the document is written again.
-/

namespace NetAttach.Json

/-- What documents of a kind look like. -/
inductive Shape where
  /-- Anything that can be kept. -/
  | free
  | flag
  | text
  /-- A text of a class. -/
  | textOf (p : String → Bool)
  | int (low high : Int)
  /-- An integer or a text. -/
  | intOrText (low high : Int)
  /-- One of some words, which may also stand as the key of the only member of an object, with `null`
  as its value. -/
  | word (words : List String)
  | list (item : Shape)
  /-- An object with any keys. -/
  | dict (value : Shape)
  /-- `null` or something else. -/
  | optional (s : Shape)
  /-- A loose object. Its members may all be absent. -/
  | object (members : List (String × Shape))
  /-- A strict record, of which some fields have to be present. -/
  | record (required : List String) (fields : List (String × Shape))

namespace Shape

mutual

/-- A document has a shape, and no more arrays and objects are open inside each other than there is
room for. -/
def fits : Shape → Nat → Json → Bool
  | .free, room, j => (keep room j).isSome
  | .flag, _, .bool _ => true
  | .text, _, .str _ => true
  | .textOf p, _, .str s => p s
  | .int low high, _, .int i => low ≤ i && i ≤ high
  | .intOrText _ _, _, .str _ => true
  | .intOrText low high, _, .int i => low ≤ i && i ≤ high
  | .word words, _, .str s => words.contains s
  | .word words, _ + 1, .obj [(k, .null)] => words.contains k
  | .list item, room + 1, .arr xs => xs.all (fits item room)
  | .dict value, room + 1, .obj ms => ms.all fun m => fits value room m.2
  | .optional _, _, .null => true
  | .optional s, room, j => fits s room j
  | .object members, room + 1, .obj ms => ms.all fun m => fitsMember members room m.1 m.2
  | .record required fields, room + 1, .obj ms =>
    (objectFields (fields.map (·.1)) room ms).isSome
      && required.all (fun k => (ms.lookup k).isSome)
      && ms.all fun m => fitsMember fields room m.1 m.2
  | .record _ fields, room + 1, .arr xs => fitsItems fields room xs
  | _, _, _ => false

/-- The value of a key has the shape for this key, if there is one. -/
def fitsMember : List (String × Shape) → Nat → String → Json → Bool
  | [], _, _, _ => true
  | (name, s) :: others, room, k, j =>
    if name = k then fits s room j else fitsMember others room k j

/-- The items of an array are all the fields of a record in their order. -/
def fitsItems : List (String × Shape) → Nat → List Json → Bool
  | [], _, [] => true
  | (_, s) :: fields, room, x :: xs => fits s room x && fitsItems fields room xs
  | _, _, _ => false

end

/-- A whole document has a shape. -/
def describes (s : Shape) (j : Json) : Bool := s.fits maxDepth j

mutual

/-- A document without the members that the loose objects of its shape do not know. -/
def known : Shape → Json → Json
  | .list item, .arr xs => .arr (xs.map item.known)
  | .dict value, .obj ms => .obj (ms.map fun m => (m.1, value.known m.2))
  | .optional s, j => s.known j
  | .object members, .obj ms =>
    .obj (ms.filterMap fun m => (knownMember members m.1 m.2).map (m.1, ·))
  | _, j => j

/-- The value of a key without what its shape does not know, if there is a shape for this key. -/
def knownMember : List (String × Shape) → String → Json → Option Json
  | [], _, _ => none
  | (name, s) :: others, k, j => if name = k then some (s.known j) else knownMember others k j

end

-- ---------------------------------------------------------------------------
-- Common shapes
-- ---------------------------------------------------------------------------

/-- Fields that may all be `null`. -/
def optionals (fields : List (String × Shape)) : List (String × Shape) :=
  fields.map fun f => (f.1, .optional f.2)

/-- Fields of the same shape. -/
def each (s : Shape) (names : List String) : List (String × Shape) := names.map (·, s)

def texts : Shape := .list .text

def textDict : Shape := .dict .text

/-- An integer of 32 bits. -/
def int32 : Shape := .int (-0x80000000) 0x7FFFFFFF

/-- An integer of 64 bits. -/
def int64 : Shape := .int (-0x8000000000000000) 0x7FFFFFFFFFFFFFFF

/-- A loose object, of which `null` members count as absent. -/
def looseObject (members : List (String × Shape)) : Shape := .object (optionals members)

/-- A strict record, of which all fields may be absent or `null`. -/
def strictRecord (fields : List (String × Shape)) : Shape := .record [] (optionals fields)

end Shape

-- ---------------------------------------------------------------------------
-- Looking into documents
-- ---------------------------------------------------------------------------

/-- The value of a member, unless it is `null`. -/
def present? (j : Json) (k : String) : Option Json :=
  match j.get? k with
  | some .null => none
  | v => v

/-- The text that a member holds. -/
def textAt? (j : Json) (k : String) : Option String :=
  match j.get? k with
  | some (.str s) => some s
  | _ => none

/-- The items of the array that a member holds. -/
def itemsAt (j : Json) (k : String) : List Json :=
  match j.get? k with
  | some (.arr xs) => xs
  | _ => []

end NetAttach.Json
