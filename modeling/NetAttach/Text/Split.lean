-- SUMMARY: Cutting a text at a separator: at its first occurrence, or at every one.

/-!
# Splitting

Both functions work on characters. `splitOnce` cuts at the first separator and
fails without one; `splitAll` cuts at every separator, so that `n` separators
give `n + 1` pieces, empty ones included.
-/

namespace NetAttach.Text

/-- What stands before and after the first separator, if there is one. -/
def splitOnce (sep : Char) : List Char → Option (List Char × List Char)
  | [] => none
  | c :: r =>
    if c = sep then some ([], r)
    else (splitOnce sep r).map fun p => (c :: p.1, p.2)

/-- The pieces between separators, in order. -/
def splitAll (sep : Char) : List Char → List (List Char)
  | [] => [[]]
  | c :: r =>
    if c = sep then [] :: splitAll sep r
    else
      match splitAll sep r with
      | [] => [[c]]
      | p :: ps => (c :: p) :: ps

-- ---------------------------------------------------------------------------
-- What the pieces say about the text
-- ---------------------------------------------------------------------------

theorem splitAll_ne_nil (sep : Char) (s : List Char) : splitAll sep s ≠ [] := by
  cases s with
  | nil => simp [splitAll]
  | cons c r =>
    unfold splitAll
    split
    · simp
    · split <;> simp

theorem splitOnce_eq_some {sep : Char} {s a b : List Char} (h : splitOnce sep s = some (a, b)) :
    s = a ++ sep :: b := by
  induction s generalizing a b with
  | nil => simp [splitOnce] at h
  | cons c r ih =>
    unfold splitOnce at h
    split at h
    · next hc => simp_all
    · obtain ⟨⟨a', b'⟩, h', he⟩ := Option.map_eq_some_iff.1 h
      obtain ⟨rfl, rfl⟩ := Prod.mk.inj he
      rw [ih h']
      rfl

theorem splitOnce_append {sep : Char} {a : List Char} (h : sep ∉ a) (b : List Char) :
    splitOnce sep (a ++ sep :: b) = some (a, b) := by
  induction a with
  | nil => simp [splitOnce]
  | cons c r ih =>
    obtain ⟨first, rest⟩ := not_or.1 (mt List.mem_cons.2 h)
    rw [List.cons_append, splitOnce, if_neg (Ne.symm first), ih rest]
    rfl

/-- The text is cut at the first separator. -/
theorem splitOnce_eq_some_iff {sep : Char} {s a b : List Char} :
    splitOnce sep s = some (a, b) ↔ s = a ++ sep :: b ∧ sep ∉ a := by
  constructor
  · intro h
    refine ⟨splitOnce_eq_some h, ?_⟩
    induction s generalizing a with
    | nil => simp [splitOnce] at h
    | cons c r ih =>
      unfold splitOnce at h
      split at h
      · cases h
        exact List.not_mem_nil
      · next other =>
        obtain ⟨⟨a', b'⟩, h', he⟩ := Option.map_eq_some_iff.1 h
        cases he
        rw [List.mem_cons]
        rintro (rfl | mem)
        · exact other rfl
        · exact ih h' mem
  · rintro ⟨rfl, h⟩
    exact splitOnce_append h b

theorem splitOnce_eq_none_iff {sep : Char} {s : List Char} : splitOnce sep s = none ↔ sep ∉ s := by
  induction s with
  | nil => simp [splitOnce]
  | cons c r ih =>
    unfold splitOnce
    split
    · next hc => simp [hc]
    · next hc =>
      rw [Option.map_eq_none_iff, ih]
      simp [Ne.symm hc]

end NetAttach.Text
