-- SUMMARY: The values that a source of configuration gives to settings, and putting one source over another.
import NetAttach.Dict

/-!
# Settings

A source of configuration gives names to values. Only the kinds of value that a
setting can have are told apart, and tables, because tables of two sources are put
together member by member. Of any other two values the later one stands.
-/

namespace NetAttach

/-- A value that a source gives to a name. Tables have their names in order. -/
inductive Setting where
  | text (s : String)
  | integer (i : Int)
  | null
  | table (members : List (String × Setting))
  /-- A truth value, a number that is no integer, what a point in time holds, or a list. -/
  | other
deriving Repr, Inhabited

namespace Setting

mutual

/-- Put a later value over an earlier one. -/
def overlay (earlier : Setting) : Setting → Setting
  | .table later =>
    match earlier with
    | .table members => .table (overlayAll members later)
    | _ => .table later
  | later => later

/-- Put later members over the members of a table. -/
def overlayAll (members : List (String × Setting)) : List (String × Setting) → List (String × Setting)
  | [] => members
  | (k, v) :: later =>
    let v := (members.lookup k).elim v fun earlier => overlay earlier v
    overlayAll (Dict.insertEntry k v members) later

end

/-- The table of the members, in which the last value of a repeated name stands. -/
def ofMembers (members : List (String × Setting)) : Setting :=
  .table (members.foldl (fun ms m => Dict.insertEntry m.1 m.2 ms) [])

/-- A value inside tables with these names, from the outermost in. -/
def within : List String → Setting → Setting
  | [], v => v
  | k :: ks, v => .table [(k, within ks v)]

/-- The value of a name in a table. -/
def get? (k : String) : Setting → Option Setting
  | .table members => members.lookup k
  | _ => none

end Setting

end NetAttach
