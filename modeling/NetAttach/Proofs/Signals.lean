-- SUMMARY: How adding, looking and leaving change the signals of the getters, and how many steps these are worth.
import NetAttach.Proofs.WorkQueue

/-!
# Signals

An item that starts to wait signals one getter only, and a getter that was signalled may
find that another has been faster. How many steps the getters may still take for their
signals is counted by weights.
-/

namespace NetAttach

/-! ## Weights -/

/-- The weights of the members of a list taken together. -/
def load {β : Type} (w : β → Nat) : List β → Nat
  | [] => 0
  | x :: xs => w x + load w xs

section

variable {β : Type} {w : β → Nat} {xs ys : List β} {x : β}

@[simp] theorem load_nil : load w [] = 0 := rfl

@[simp] theorem load_cons : load w (x :: xs) = w x + load w xs := rfl

@[simp] theorem load_append : load w (xs ++ ys) = load w xs + load w ys := by
  induction xs with
  | nil => exact (Nat.zero_add _).symm
  | cons x xs ih => rw [List.cons_append, load_cons, load_cons, ih, Nat.add_assoc]

theorem load_map {γ : Type} (f : γ → β) (zs : List γ) :
    load w (zs.map f) = load (fun z => w (f z)) zs := by
  induction zs with
  | nil => rfl
  | cons z zs ih => rw [List.map_cons, load_cons, load_cons, ih]

theorem load_replicate (n : Nat) : load w (List.replicate n x) = n * w x := by
  induction n with
  | zero => exact (Nat.zero_mul _).symm
  | succ n ih => rw [List.replicate_succ, load_cons, ih, Nat.succ_mul, Nat.add_comm]

theorem load_erase [DecidableEq β] (h : x ∈ xs) : load w (xs.erase x) + w x = load w xs := by
  induction xs with
  | nil => cases h
  | cons y ys ih =>
    by_cases same : y = x
    · rw [same, List.erase_cons_head, load_cons, Nat.add_comm]
    · obtain here | h := List.mem_cons.1 h
      · exact absurd here.symm same
      · rw [List.erase_cons_tail (by simpa using same), load_cons, load_cons, Nat.add_assoc, ih h]

theorem load_eraseP {p : β → Bool} (h : xs.find? p = some x) :
    load w (xs.eraseP p) + w x = load w xs := by
  obtain ⟨hx, front, back, rfl, none⟩ := List.find?_eq_some_iff_append.1 h
  rw [List.eraseP_append_right _ (by simpa using none), List.eraseP_cons_of_pos hx]
  simp
  omega

theorem load_set {i : Nat} (hi : i < xs.length) : load w (xs.set i x) + w xs[i] = load w xs + w x := by
  induction xs generalizing i with
  | nil => cases hi
  | cons y ys ih =>
    cases i with
    | zero =>
      simp
      omega
    | succ i =>
      have := ih (Nat.lt_of_succ_lt_succ hi)
      simp
      omega

theorem le_load (h : x ∈ xs) : w x ≤ load w xs := by
  induction xs with
  | nil => cases h
  | cons y ys ih =>
    rw [load_cons]
    obtain rfl | h := List.mem_cons.1 h
    · exact Nat.le_add_right _ _
    · exact Nat.le_trans (ih h) (Nat.le_add_left _ _)

theorem load_mono {v : β → Nat} (h : ∀ x ∈ xs, v x ≤ w x) : load v xs ≤ load w xs := by
  induction xs with
  | nil => exact Nat.le_refl 0
  | cons y ys ih =>
    rw [load_cons, load_cons]
    exact Nat.add_le_add (h y List.mem_cons_self) (ih fun x hx => h x (List.mem_cons_of_mem _ hx))

theorem exists_of_load (h : 0 < load w xs) : ∃ x ∈ xs, 0 < w x := by
  induction xs with
  | nil => cases h
  | cons y ys ih =>
    by_cases pos : 0 < w y
    · exact ⟨y, List.mem_cons_self, pos⟩
    · obtain ⟨x, hx, some⟩ := ih (by rw [load_cons] at h; omega)
      exact ⟨x, List.mem_cons_of_mem _ hx, some⟩

end

/-! ## Signals -/

/-- How many steps a getter is worth that has yet to look, or to start anew. -/
def Getter.stir (g : Getter) : Nat := (if g.checked then 0 else 1) + if g.signal.isSome then 3 else 0

namespace SharedQueue

variable {α : Type} {q : SharedQueue α} {i : Nat} {x : α}

/-- The workers that are registered. -/
def ids (q : SharedQueue α) : List Nat := q.getters.map Getter.id

/-- How many steps the signals and the getters are worth. -/
def stir (q : SharedQueue α) : Nat := (if q.permit then 5 else 0) + load Getter.stir q.getters

theorem choose?_eq_some {gs gs' : List Getter} (h : choose? gs = some gs') :
    ∃ front g back, gs = front ++ g :: back ∧ g.signal = none
      ∧ gs' = front ++ { g with signal := some .chosen } :: back := by
  induction gs generalizing gs' with
  | nil => cases h
  | cons g gs ih =>
    unfold choose? at h
    split at h
    · next unsignalled =>
      cases h
      exact ⟨[], g, gs, rfl, unsignalled, rfl⟩
    · obtain ⟨rest, found, rfl⟩ := Option.map_eq_some_iff.1 h
      obtain ⟨front, g', back, rfl, unsignalled, rfl⟩ := ih found
      exact ⟨g :: front, g', back, rfl, unsignalled, rfl⟩

theorem choose?_eq_none {gs : List Getter} (h : choose? gs = none) : ∀ g ∈ gs, g.signal ≠ none := by
  induction gs with
  | nil => exact nofun
  | cons g gs ih =>
    unfold choose? at h
    split at h
    · cases h
    · next signalled =>
      intro g' hg
      obtain rfl | hg := List.mem_cons.1 hg
      · simp [signalled]
      · exact ih (Option.map_eq_none_iff.1 h) g' hg

/-- A signal goes to a getter that has none, or is kept if all have one. -/
theorem notifyOne_cases (q : SharedQueue α) :
    (∃ front g back, q.getters = front ++ g :: back ∧ g.signal = none
      ∧ q.notifyOne = { q with getters := front ++ { g with signal := some .chosen } :: back })
    ∨ ((∀ g ∈ q.getters, g.signal ≠ none) ∧ q.notifyOne = { q with permit := true }) := by
  unfold notifyOne
  cases h : choose? q.getters with
  | some gs =>
    obtain ⟨front, g, back, same, unsignalled, rfl⟩ := choose?_eq_some h
    exact .inl ⟨front, g, back, same, unsignalled, rfl⟩
  | none => exact .inr ⟨choose?_eq_none h, rfl⟩

@[simp] theorem ids_notifyOne : q.notifyOne.ids = q.ids := by
  obtain ⟨front, g, back, same, -, eq⟩ | ⟨-, eq⟩ := q.notifyOne_cases
  · simp [ids, eq, same]
  · rw [eq]
    rfl

theorem stir_notifyOne : q.notifyOne.stir ≤ q.stir + 5 := by
  obtain ⟨front, g, back, same, unsignalled, eq⟩ | ⟨-, eq⟩ := q.notifyOne_cases
  · simp [stir, Getter.stir, eq, same, unsignalled]
    omega
  · rw [stir, stir, eq]
    split <;> dsimp only <;> omega

/-- After a signal not all getters sleep. -/
theorem awake_of_notifyOne (unique : q.ids.Nodup) (n : Nat) (within : ∀ i ∈ q.ids, i < n)
    (some : 0 < n) : ∃ i < n, ∀ g ∈ q.notifyOne.getters, g.id = i → g.asleep = false := by
  obtain ⟨front, g, back, same, -, eq⟩ | ⟨signalled, eq⟩ := q.notifyOne_cases
  · refine ⟨g.id, within _ (by simp [ids, same]), fun g' hg' hid => ?_⟩
    rw [eq] at hg'
    simp only [ids, same, List.map_append, List.map_cons, List.nodup_append, List.nodup_cons,
      List.mem_map, List.mem_cons] at unique
    simp only [List.mem_append, List.mem_cons] at hg'
    obtain hg' | rfl | hg' := hg'
    · exact absurd hid (unique.2.2 _ ⟨g', hg', rfl⟩ _ (.inl rfl))
    · simp [Getter.asleep]
    · exact absurd ⟨g', hg', hid⟩ unique.2.1.1
  · refine ⟨0, some, fun g hg _ => ?_⟩
    rw [eq] at hg
    simp [Getter.asleep, Option.isSome_iff_ne_none, signalled g hg]

/-! ## What the getters and the items do -/

@[simp] theorem ids_add [DecidableEq α] : (q.add x).ids = q.ids := by
  unfold SharedQueue.add
  dsimp only
  split
  · exact ids_notifyOne
  · rfl

@[simp] theorem ids_done [DecidableEq α] : (q.done x).ids = q.ids := by
  unfold SharedQueue.done
  dsimp only
  split
  · exact ids_notifyOne
  · rfl

theorem stir_add [DecidableEq α] : (q.add x).stir ≤ q.stir + 5 := by
  unfold SharedQueue.add
  dsimp only
  split
  · exact stir_notifyOne
  · exact Nat.le_add_right _ _

theorem stir_done [DecidableEq α] : (q.done x).stir ≤ q.stir + 5 := by
  unfold SharedQueue.done
  dsimp only
  split
  · exact stir_notifyOne
  · exact Nat.le_add_right _ _

/-- Whoever is registered at the end has yet to look. -/
theorem getters_register (q : SharedQueue α) (i : Nat) : ∃ signal,
    (q.register i).getters = q.getters ++ [⟨i, false, signal⟩] ∧ (q.register i).stir ≤ q.stir + 1 := by
  unfold register
  split
  · next permit =>
    refine ⟨_, rfl, ?_⟩
    simp [stir, Getter.stir, permit]
    omega
  · next permit =>
    refine ⟨_, rfl, ?_⟩
    simp [stir, Getter.stir, permit]

theorem ids_drop : (q.drop i).ids = q.ids.erase i := by
  unfold ids drop
  induction q.getters with
  | nil => rfl
  | cons g gs ih =>
    by_cases same : g.id = i
    · simp [same]
    · simp [same, ih]

theorem stir_drop {g : Getter} (found : q.getter? i = some g) : (q.drop i).stir + g.stir = q.stir := by
  have dropped : load Getter.stir (q.drop i).getters + g.stir = load Getter.stir q.getters :=
    load_eraseP found
  have same : (q.drop i).permit = q.permit := rfl
  rw [stir, stir, same]
  omega

@[simp] theorem ids_leave {g : Getter} (found : q.getter? i = some g) :
    (q.leave i).ids = q.ids.erase i := by
  unfold leave
  rw [found]
  dsimp only
  split <;> simp [ids_drop]

theorem stir_leave {g : Getter} (found : q.getter? i = some g) (unchecked : g.checked = false) :
    (q.leave i).stir ≤ q.stir + 1 := by
  have dropped := stir_drop found
  unfold leave
  rw [found]
  dsimp only
  split
  · next chosen =>
    have := stir_notifyOne (q := q.drop i)
    simp [Getter.stir, chosen, unchecked] at dropped
    omega
  · omega

theorem getters_vain [DecidableEq α] (empty : q.queue.waiting = []) (open_ : q.queue.closed = false) :
    (q.check i).2.getters = q.getters.map fun g => if g.id = i then { g with checked := true } else g := by
  simp [check, WorkQueue.take?_eq_none.2 empty, open_]

theorem stir_vain [DecidableEq α] {g : Getter} (found : q.getter? i = some g) (unchecked : g.checked = false)
    (empty : q.queue.waiting = []) (open_ : q.queue.closed = false) :
    (q.check i).2.stir + 1 ≤ q.stir := by
  obtain ⟨named, front, back, same, others⟩ := List.find?_eq_some_iff_append.1 found
  have kept (g' : Getter) : Getter.stir (if g'.id = i then { g' with checked := true } else g')
      ≤ g'.stir := by
    unfold Getter.stir
    split <;> simp
  have lighter (gs : List Getter) : load Getter.stir
      (gs.map fun g => if g.id = i then { g with checked := true } else g) ≤ load Getter.stir gs := by
    rw [load_map]
    exact load_mono fun g' _ => kept g'
  have permit : (q.check i).2.permit = q.permit := by
    simp [check, WorkQueue.take?_eq_none.2 empty, open_]
  have looked : Getter.stir (if g.id = i then { g with checked := true } else g) + 1 = g.stir := by
    rw [if_pos (by simpa using named)]
    simp [Getter.stir, unchecked]
    omega
  rw [stir, stir, getters_vain empty open_, permit, same, List.map_append, List.map_cons, load_append,
    load_cons, load_append, load_cons]
  have := lighter front
  have := lighter back
  omega

end SharedQueue

end NetAttach
