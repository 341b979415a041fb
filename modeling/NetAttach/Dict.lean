-- SUMMARY: Maps from texts to values with their keys in ascending order.

/-!
# Dictionaries

A `Dict` holds its entries in ascending order of keys, each key once, so that two
dictionaries with the same contents are equal and are written the same way.
Texts compare by code point, which is the order of their UTF-8 bytes.
-/

namespace NetAttach

/-- The first entry of a key counts. -/
theorem lookup_entry {κ α : Type} [DecidableEq κ] (k : κ) (e : κ × α) (r : List (κ × α)) :
    (e :: r).lookup k = if k = e.1 then some e.2 else r.lookup k := by
  obtain ⟨k', v⟩ := e
  by_cases h : k = k'
  · simp [h]
  · have hb : (k == k') = false := beq_eq_false_iff_ne.2 h
    simp [List.lookup_cons, hb, h]

/-- Of the entries with some keys, those with any of these keys count as before. -/
theorem lookup_filter {κ α : Type} [DecidableEq κ] (p : κ → Bool) (k : κ) (es : List (κ × α)) :
    (es.filter fun e => p e.1).lookup k = if p k then es.lookup k else none := by
  induction es with
  | nil => simp
  | cons e r ih =>
    rw [List.filter_cons, lookup_entry]
    by_cases same : k = e.1
    · subst same
      by_cases counts : p e.1
      · rw [if_pos counts, lookup_entry, if_pos rfl, if_pos counts, if_pos rfl]
      · rw [if_neg counts, ih, if_neg counts, if_neg counts]
    · rw [if_neg same, ← ih]
      split
      · rw [lookup_entry, if_neg same]
      · rfl

/-- Entries in ascending order of keys. -/
structure Dict (α : Type) where
  entries : List (String × α)
  sorted : entries.Pairwise fun a b => compare a.1 b.1 = .lt
deriving DecidableEq

namespace Dict

variable {α : Type}

instance : Inhabited (Dict α) := ⟨⟨[], .nil⟩⟩

/-- The dictionary without entries. -/
def empty : Dict α := ⟨[], .nil⟩

instance : EmptyCollection (Dict α) := ⟨empty⟩

-- ---------------------------------------------------------------------------
-- Insertion
-- ---------------------------------------------------------------------------

/-- Put an entry at its place, over an entry with the same key. -/
def insertEntry (k : String) (v : α) : List (String × α) → List (String × α)
  | [] => [(k, v)]
  | e :: r =>
    match compare k e.1 with
    | .lt => (k, v) :: e :: r
    | .eq => (k, v) :: r
    | .gt => e :: insertEntry k v r

theorem mem_insertEntry {k : String} {v : α} {es : List (String × α)} {x : String × α}
    (h : x ∈ insertEntry k v es) : x = (k, v) ∨ x ∈ es := by
  induction es with
  | nil => simpa [insertEntry] using h
  | cons e r ih =>
    unfold insertEntry at h
    split at h
    · simpa using h
    · simp only [List.mem_cons] at h ⊢
      rcases h with h | h
      · exact .inl h
      · exact .inr (.inr h)
    · simp only [List.mem_cons] at h ⊢
      rcases h with h | h
      · exact .inr (.inl h)
      · rcases ih h with h | h
        · exact .inl h
        · exact .inr (.inr h)

theorem sorted_insertEntry (k : String) (v : α) {es : List (String × α)}
    (h : es.Pairwise fun a b => compare a.1 b.1 = .lt) :
    (insertEntry k v es).Pairwise fun a b => compare a.1 b.1 = .lt := by
  induction es with
  | nil => simp [insertEntry]
  | cons e r ih =>
    obtain ⟨he, hr⟩ := List.pairwise_cons.1 h
    unfold insertEntry
    split
    · next hk =>
      refine List.pairwise_cons.2 ⟨?_, h⟩
      intro x hx
      rcases List.mem_cons.1 hx with rfl | hx
      · exact hk
      · exact Std.TransCmp.lt_trans hk (he x hx)
    · next hk =>
      refine List.pairwise_cons.2 ⟨?_, hr⟩
      intro x hx
      have : k = e.1 := Std.LawfulEqCmp.eq_of_compare hk
      simpa [this] using he x hx
    · next hk =>
      refine List.pairwise_cons.2 ⟨?_, ih hr⟩
      intro x hx
      rcases mem_insertEntry hx with rfl | hx
      · exact Std.OrientedCmp.gt_iff_lt.1 hk
      · exact he x hx

/-- Set the value of a key. -/
def insert (d : Dict α) (k : String) (v : α) : Dict α :=
  ⟨insertEntry k v d.entries, sorted_insertEntry k v d.sorted⟩

/-- Drop a key, if it is there. -/
def erase (d : Dict α) (k : String) : Dict α :=
  ⟨d.entries.filter fun e => e.1 != k, d.sorted.filter _⟩

/-- The dictionary of the pairs, in which the last value of a repeated key stands. -/
def ofList (es : List (String × α)) : Dict α :=
  es.foldl (fun d e => d.insert e.1 e.2) empty

-- ---------------------------------------------------------------------------
-- Lookup
-- ---------------------------------------------------------------------------

/-- The value of a key. -/
def get? (d : Dict α) (k : String) : Option α := d.entries.lookup k

/-- The entries in order of keys. -/
def toList (d : Dict α) : List (String × α) := d.entries

/-- A dictionary has no entries. -/
def isEmpty (d : Dict α) : Bool := d.entries.isEmpty

theorem lookup_insertEntry (k k' : String) (v : α) (es : List (String × α)) :
    (insertEntry k v es).lookup k' = if k' = k then some v else es.lookup k' := by
  induction es with
  | nil => rw [insertEntry, lookup_entry]
  | cons e r ih =>
    unfold insertEntry
    split
    · rw [lookup_entry]
    · next hk =>
      have : k = e.1 := Std.LawfulEqCmp.eq_of_compare hk
      rw [lookup_entry, lookup_entry k' e r, ← this]
      split <;> rfl
    · next hk =>
      have hne : e.1 ≠ k := by
        intro h
        have : compare k k = .eq := Std.ReflCmp.compare_self
        rw [h, this] at hk
        cases hk
      rw [lookup_entry, ih, lookup_entry k' e r]
      by_cases he : k' = e.1
      · simp [he, hne]
      · simp [he]

theorem get?_insert (d : Dict α) (k k' : String) (v : α) :
    (d.insert k v).get? k' = if k' = k then some v else d.get? k' :=
  lookup_insertEntry k k' v d.entries

@[simp] theorem get?_empty (k : String) : (empty : Dict α).get? k = none := rfl

@[simp] theorem get?_insert_self (d : Dict α) (k : String) (v : α) :
    (d.insert k v).get? k = some v := by
  simp [get?_insert]

theorem get?_insert_of_ne (d : Dict α) {k k' : String} (v : α) (h : k' ≠ k) :
    (d.insert k v).get? k' = d.get? k' := by
  simp [get?_insert, h]

end Dict

end NetAttach
