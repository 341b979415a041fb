-- SUMMARY: What is between the blanks and the separators of a text, and lists that are read item by item.
import NetAttach.Text.Blank
import NetAttach.Text.Split
import Mathlib.Data.List.Forall2
import Mathlib.Data.List.TakeWhile

/-!
# Pieces of texts

A text without the blanks at its ends is told by what was taken away. Cutting at every
separator is the library's `List.splitOn`. A list is read item by item if every item is.
-/

namespace NetAttach

namespace Text

/-! ## Trimming -/

/-- A text is what is left of another one without the blanks at its ends. -/
structure Trims (s t : List Char) : Prop where
  cut : ∃ before after, s = before ++ t ++ after ∧ (∀ c ∈ before, isBlank c = true)
    ∧ ∀ c ∈ after, isBlank c = true
  first : ∀ c ∈ t.head?, isBlank c = false
  last : ∀ c ∈ t.getLast?, isBlank c = false

theorem head?_dropWhile_isBlank {s : List Char} :
    ∀ c ∈ (s.dropWhile isBlank).head?, isBlank c = false := by
  intro c hc
  have found := List.head?_dropWhile_not isBlank s
  rw [Option.mem_def.1 hc] at found
  exact found

theorem trims_trimChars (s : List Char) : Trims s (trimChars s) := by
  -- the blanks are taken from the front first, so that those at the back are blanks of the rest
  have back : ∀ u : List Char, ∃ after, u = (u.reverse.dropWhile isBlank).reverse ++ after
      ∧ ∀ c ∈ after, isBlank c = true := by
    intro u
    refine ⟨(u.reverse.takeWhile isBlank).reverse, ?_, fun c hc => ?_⟩
    · rw [← List.reverse_append, List.takeWhile_append_dropWhile, List.reverse_reverse]
    · exact List.mem_takeWhile_imp (List.mem_reverse.1 hc)
  obtain ⟨after, rest, blank⟩ := back (s.dropWhile isBlank)
  refine ⟨⟨s.takeWhile isBlank, after, ?_, fun c hc => List.mem_takeWhile_imp hc, blank⟩, ?_, ?_⟩
  · rw [List.append_assoc, trimChars, ← rest, List.takeWhile_append_dropWhile]
  · intro c hc
    refine head?_dropWhile_isBlank (s := s) c ?_
    rw [rest]
    exact List.mem_head?_append_of_mem_head? hc
  · intro c hc
    rw [trimChars, List.getLast?_reverse] at hc
    exact head?_dropWhile_isBlank c hc

theorem Trims.subset {s t : List Char} (h : Trims s t) : t ⊆ s := by
  obtain ⟨before, after, rfl, -, -⟩ := h.cut
  intro c hc
  simp [hc]

theorem Trims.mem {s t : List Char} (h : Trims s t) {c : Char} (hc : c ∈ s)
    (filled : isBlank c = false) : c ∈ t := by
  obtain ⟨before, after, rfl, front, back⟩ := h.cut
  obtain (hc | hc) | hc := (List.mem_append.1 hc).imp_left List.mem_append.1
  · exact absurd (front c hc) (by simp [filled])
  · exact hc
  · exact absurd (back c hc) (by simp [filled])

/-! ## Separators -/

theorem splitAll_eq_splitOn (sep : Char) (s : List Char) : splitAll sep s = s.splitOn sep := by
  induction s with
  | nil => rfl
  | cons c r ih =>
    rw [List.splitOn_eq_splitOnP, List.splitOnP_cons_eq_if_modifyHead, ← List.splitOn_eq_splitOnP,
      ← ih, splitAll]
    by_cases same : c = sep
    · simp [same]
    · rw [if_neg same, if_neg (by simpa using same)]
      cases split : splitAll sep r with
      | nil => exact absurd split (splitAll_ne_nil sep r)
      | cons p ps => rfl

theorem intercalate_splitAll {sep : Char} {s : List Char} : [sep].intercalate (splitAll sep s) = s := by
  rw [splitAll_eq_splitOn, List.intercalate_splitOn]

theorem splitAll_intercalate {sep : Char} {ps : List (List Char)} (some_piece : ps ≠ [])
    (apart : ∀ p ∈ ps, sep ∉ p) : splitAll sep ([sep].intercalate ps) = ps := by
  rw [splitAll_eq_splitOn, List.splitOn_intercalate sep apart some_piece]

theorem intercalate_cons (sep : Char) (p : List Char) (ps : List (List Char)) :
    ∃ r, [sep].intercalate (p :: ps) = p ++ r := by
  cases ps with
  | nil => exact ⟨[], by simp⟩
  | cons q ps => exact ⟨_, by rw [List.intercalate_cons_cons, List.append_assoc]⟩

theorem mem_intercalate {sep c : Char} {ps : List (List Char)} (h : c ∈ [sep].intercalate ps) :
    c = sep ∨ ∃ p ∈ ps, c ∈ p := by
  induction ps with
  | nil => cases h
  | cons p ps ih =>
    cases ps with
    | nil =>
      rw [List.intercalate_singleton] at h
      exact .inr ⟨p, List.mem_cons_self, h⟩
    | cons q ps =>
      rw [List.intercalate_cons_cons, List.append_assoc, List.mem_append, List.singleton_append,
        List.mem_cons] at h
      obtain here | rfl | later := h
      · exact .inr ⟨p, List.mem_cons_self, here⟩
      · exact .inl rfl
      · exact (ih later).imp_right fun ⟨p, mem, inside⟩ => ⟨p, List.mem_cons_of_mem _ mem, inside⟩

end Text

/-! ## Lists that are read item by item -/

variable {ε α β γ : Type} {xs : List α} {zs : List γ}

theorem bind_eq_ok_iff {m : Except ε α} {f : α → Except ε β} {y : β} :
    m >>= f = .ok y ↔ ∃ x, m = .ok x ∧ f x = .ok y := by
  cases m <;> simp [bind, Except.bind]

theorem mapM_eq_ok_iff {f : α → Except ε β} {ys : List β} :
    xs.mapM f = .ok ys ↔ List.Forall₂ (fun x y => f x = .ok y) xs ys := by
  induction xs generalizing ys with
  | nil => cases ys <;> simp [pure, Except.pure]
  | cons x xs ih =>
    simp only [List.mapM_cons, bind_eq_ok_iff, ih]
    cases ys <;> simp [pure, Except.pure]

/-- Items that are read in two steps. -/
theorem forall₂_comp_iff {p : α → β → Prop} {q : β → γ → Prop} :
    (∃ ys, List.Forall₂ p xs ys ∧ List.Forall₂ q ys zs)
      ↔ List.Forall₂ (fun x z => ∃ y, p x y ∧ q y z) xs zs := by
  constructor
  · rintro ⟨ys, first, second⟩
    induction first generalizing zs with
    | nil =>
      cases second
      exact .nil
    | cons hp _ ih =>
      cases second with
      | cons hq second => exact .cons ⟨_, hp, hq⟩ (ih second)
  · intro h
    induction h with
    | nil => exact ⟨[], .nil, .nil⟩
    | cons hpq _ ih =>
      obtain ⟨y, hp, hq⟩ := hpq
      obtain ⟨ys, first, second⟩ := ih
      exact ⟨y :: ys, .cons hp first, .cons hq second⟩

theorem exists_forall₂_iff {p : α → β → Prop} :
    (∃ ys, List.Forall₂ p xs ys) ↔ ∀ x ∈ xs, ∃ y, p x y := by
  induction xs with
  | nil => simp
  | cons x xs ih =>
    rw [List.forall_mem_cons, ← ih]
    constructor
    · rintro ⟨_, ⟨⟩ | ⟨hp, rest⟩⟩
      exact ⟨⟨_, hp⟩, _, rest⟩
    · rintro ⟨⟨y, hp⟩, ys, rest⟩
      exact ⟨y :: ys, .cons hp rest⟩

end NetAttach
