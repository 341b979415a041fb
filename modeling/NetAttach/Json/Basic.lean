-- SUMMARY: JSON values, with integers and doubles apart and members in the order in which they are written.
import NetAttach.Dict
import NetAttach.Decimal.Double

/-!
# JSON values

A `Json` is what a document says, before it is read as a record. Integers of up to
64 bits stay integers and every other number is a double. Two kinds of literal
are well formed and still denote nothing: a number beyond all doubles, and a text
with an unpaired surrogate. They become `unusable`, which may be passed over and
never read.
-/

namespace NetAttach

/-- A JSON document. The members of an object stand as written, repeated keys included. -/
inductive Json where
  | null
  | bool (b : Bool)
  | int (i : Int)
  | double (d : Double)
  | str (s : String)
  | arr (items : List Json)
  | obj (members : List (String × Json))
  | unusable
deriving Repr, Inhabited

namespace Json

-- ---------------------------------------------------------------------------
-- Equality
-- ---------------------------------------------------------------------------

mutual

/-- Decide whether two documents are written alike. -/
def decEq : (a b : Json) → Decidable (a = b)
  | .null, .null => isTrue rfl
  | .bool a, .bool b =>
    if h : a = b then isTrue (h ▸ rfl) else isFalse fun e => h (Json.bool.inj e)
  | .int a, .int b =>
    if h : a = b then isTrue (h ▸ rfl) else isFalse fun e => h (Json.int.inj e)
  | .double a, .double b =>
    if h : a = b then isTrue (h ▸ rfl) else isFalse fun e => h (Json.double.inj e)
  | .str a, .str b =>
    if h : a = b then isTrue (h ▸ rfl) else isFalse fun e => h (Json.str.inj e)
  | .arr a, .arr b =>
    match decEqItems a b with
    | isTrue h => isTrue (h ▸ rfl)
    | isFalse h => isFalse fun e => h (Json.arr.inj e)
  | .obj a, .obj b =>
    match decEqMembers a b with
    | isTrue h => isTrue (h ▸ rfl)
    | isFalse h => isFalse fun e => h (Json.obj.inj e)
  | .unusable, .unusable => isTrue rfl
  | .null, .bool _ | .null, .int _ | .null, .double _ | .null, .str _ | .null, .arr _
  | .null, .obj _ | .null, .unusable
  | .bool _, .null | .bool _, .int _ | .bool _, .double _ | .bool _, .str _ | .bool _, .arr _
  | .bool _, .obj _ | .bool _, .unusable
  | .int _, .null | .int _, .bool _ | .int _, .double _ | .int _, .str _ | .int _, .arr _
  | .int _, .obj _ | .int _, .unusable
  | .double _, .null | .double _, .bool _ | .double _, .int _ | .double _, .str _
  | .double _, .arr _ | .double _, .obj _ | .double _, .unusable
  | .str _, .null | .str _, .bool _ | .str _, .int _ | .str _, .double _ | .str _, .arr _
  | .str _, .obj _ | .str _, .unusable
  | .arr _, .null | .arr _, .bool _ | .arr _, .int _ | .arr _, .double _ | .arr _, .str _
  | .arr _, .obj _ | .arr _, .unusable
  | .obj _, .null | .obj _, .bool _ | .obj _, .int _ | .obj _, .double _ | .obj _, .str _
  | .obj _, .arr _ | .obj _, .unusable
  | .unusable, .null | .unusable, .bool _ | .unusable, .int _ | .unusable, .double _
  | .unusable, .str _ | .unusable, .arr _ | .unusable, .obj _ =>
    isFalse fun e => by cases e

/-- Decide whether two lists of items are written alike. -/
def decEqItems : (a b : List Json) → Decidable (a = b)
  | [], [] => isTrue rfl
  | [], _ :: _ => isFalse fun e => by cases e
  | _ :: _, [] => isFalse fun e => by cases e
  | x :: xs, y :: ys =>
    match decEq x y, decEqItems xs ys with
    | isTrue h, isTrue h' => isTrue (h ▸ h' ▸ rfl)
    | isFalse h, _ => isFalse fun e => h (List.cons.inj e).1
    | _, isFalse h => isFalse fun e => h (List.cons.inj e).2

/-- Decide whether two lists of members are written alike. -/
def decEqMembers : (a b : List (String × Json)) → Decidable (a = b)
  | [], [] => isTrue rfl
  | [], _ :: _ => isFalse fun e => by cases e
  | _ :: _, [] => isFalse fun e => by cases e
  | (k, x) :: xs, (l, y) :: ys =>
    if hk : k = l then
      match decEq x y, decEqMembers xs ys with
      | isTrue h, isTrue h' => isTrue (hk ▸ h ▸ h' ▸ rfl)
      | isFalse h, _ => isFalse fun e => h (Prod.mk.inj (List.cons.inj e).1).2
      | _, isFalse h => isFalse fun e => h (List.cons.inj e).2
    else isFalse fun e => hk (Prod.mk.inj (List.cons.inj e).1).1

end

instance : DecidableEq Json := decEq

mutual

/-- Equality as data: like equality, except that the two zeros are one number. -/
def sameValue : Json → Json → Bool
  | .null, .null => true
  | .bool a, .bool b => a == b
  | .int a, .int b => a == b
  | .double a, .double b => a.sameValue b
  | .str a, .str b => a == b
  | .arr a, .arr b => sameItems a b
  | .obj a, .obj b => sameMembers a b
  | _, _ => false

/-- Equality of lists of items as data. -/
def sameItems : List Json → List Json → Bool
  | [], [] => true
  | x :: xs, y :: ys => sameValue x y && sameItems xs ys
  | _, _ => false

/-- Equality of lists of members as data. -/
def sameMembers : List (String × Json) → List (String × Json) → Bool
  | [], [] => true
  | (k, x) :: xs, (l, y) :: ys => k == l && sameValue x y && sameMembers xs ys
  | _, _ => false

end

-- ---------------------------------------------------------------------------
-- Building documents
-- ---------------------------------------------------------------------------

/-- A list of texts. -/
def texts (ss : List String) : Json := .arr (ss.map .str)

/-- An object of the members that are present. -/
def record (members : List (Option (String × Json))) : Json := .obj (members.filterMap id)

/-- A member that is always written. -/
def member (k : String) (v : Json) : Option (String × Json) := some (k, v)

/-- A member that is written unless the condition says that it is empty. -/
def memberUnless (empty : Bool) (k : String) (v : Json) : Option (String × Json) :=
  if empty then none else some (k, v)

/-- A member that is written if there is a value for it. -/
def member? (k : String) (v : Option Json) : Option (String × Json) := v.map fun v => (k, v)

/-- An object with the entries of a dictionary. -/
def ofDict (d : Dict Json) : Json := .obj d.entries

/-- The value of a member; the last one counts. -/
def get? (j : Json) (k : String) : Option Json :=
  match j with
  | .obj ms => ms.reverse.lookup k
  | _ => none

end Json

end NetAttach
