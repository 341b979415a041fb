-- SUMMARY: Finite maps with keys that can be compared for equality only.
import NetAttach.Dict

/-!
# Keyed maps

A keyed map is known by what it answers for each key; the order of its entries means
nothing.
-/

namespace NetAttach

/-- A map with finitely many keys. -/
structure Keyed (κ α : Type) where
  entries : List (κ × α)
deriving Repr, DecidableEq

namespace Keyed

variable {κ α : Type}

instance : Inhabited (Keyed κ α) := ⟨⟨[]⟩⟩

/-- The map without keys. -/
def empty : Keyed κ α := ⟨[]⟩

variable [DecidableEq κ]

/-- The value of a key. -/
def get? (m : Keyed κ α) (k : κ) : Option α := m.entries.lookup k

/-- A map without one key. -/
def erase (m : Keyed κ α) (k : κ) : Keyed κ α := ⟨m.entries.filter fun e => e.1 ≠ k⟩

/-- Set the value of a key. -/
def put (m : Keyed κ α) (k : κ) (v : α) : Keyed κ α := ⟨(k, v) :: (m.erase k).entries⟩

@[simp] theorem get?_empty (k : κ) : (empty : Keyed κ α).get? k = none := rfl

theorem get?_erase (m : Keyed κ α) (k k' : κ) :
    (m.erase k).get? k' = if k' = k then none else m.get? k' := by
  refine (lookup_filter (fun l => decide (l ≠ k)) k' m.entries).trans ?_
  by_cases same : k' = k <;> simp [same, get?]

theorem get?_put (m : Keyed κ α) (k k' : κ) (v : α) :
    (m.put k v).get? k' = if k' = k then some v else m.get? k' := by
  have h : (m.put k v).get? k' = if k' = k then some v else (m.erase k).get? k' :=
    lookup_entry k' (k, v) (m.erase k).entries
  rw [h, get?_erase]
  split <;> rfl

@[simp] theorem get?_put_self (m : Keyed κ α) (k : κ) (v : α) : (m.put k v).get? k = some v := by
  simp [get?_put]

end Keyed

end NetAttach
