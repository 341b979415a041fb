-- SUMMARY: Runs of a step relation, each step with what it did, and what all runs come to.

/-!
# Runs

A step relation says which state follows which, and what is done on the way. A run is
a sequence of steps together with the list of what they did. It grows at its end, so
that an invariant is carried along by what one step preserves.
-/

namespace NetAttach

/-- Steps one after the other, with what each of them did. -/
inductive Run {σ ε : Type} (Step : σ → ε → σ → Prop) (s : σ) : List ε → σ → Prop where
  | nil : Run Step s [] s
  | snoc {t u : σ} {es : List ε} {e : ε} (run : Run Step s es t) (step : Step t e u) :
    Run Step s (es ++ [e]) u

namespace Run

variable {σ ε : Type} {Step : σ → ε → σ → Prop} {s t : σ} {es : List ε}

/-- What one step preserves, a run preserves. -/
theorem invariant {I : σ → Prop} (keeps : ∀ {t e u}, I t → Step t e u → I u) (start : I s)
    (h : Run Step s es t) : I t := by
  induction h with
  | nil => exact start
  | snoc _ step ih => exact keeps ih step

/-- The same for what also depends on what was done so far. -/
theorem invariant_with {I : List ε → σ → Prop}
    (keeps : ∀ {es t e u}, I es t → Step t e u → I (es ++ [e]) u) (start : I [] s)
    (h : Run Step s es t) : I es t := by
  induction h with
  | nil => exact start
  | snoc _ step ih => exact keeps ih step

/-- A run of steps that are steps of another kind too. -/
theorem imp {Step' : σ → ε → σ → Prop} (weaken : ∀ {t e u}, Step t e u → Step' t e u)
    (h : Run Step s es t) : Run Step' s es t := by
  induction h with
  | nil => exact .nil
  | snoc _ step ih => exact ih.snoc (weaken step)

/-- One run after another. -/
theorem trans {es' : List ε} {u : σ} (h : Run Step s es t) (later : Run Step t es' u) :
    Run Step s (es ++ es') u := by
  induction later with
  | nil =>
    rw [List.append_nil]
    exact h
  | snoc _ step ih =>
    rw [← List.append_assoc]
    exact ih.snoc step

theorem eq_of_nil (h : Run Step s [] t) : t = s := by
  generalize hall : [] = all at h
  cases h with
  | nil => rfl
  | snoc => simp at hall

/-- The last step of a run. -/
theorem last {e : ε} (h : Run Step s (es ++ [e]) t) : ∃ u, Run Step s es u ∧ Step u e t := by
  generalize hall : es ++ [e] = all at h
  cases h with
  | nil => simp at hall
  | snoc run step =>
    obtain ⟨rfl, he⟩ := List.append_inj' hall rfl
    obtain rfl : e = _ := by simpa using he
    exact ⟨_, run, step⟩

/-- A run is cut in two wherever its steps are. -/
theorem split {pre post : List ε} (h : Run Step s (pre ++ post) t) :
    ∃ u, Run Step s pre u ∧ Run Step u post t := by
  generalize hall : pre ++ post = all at h
  induction h generalizing post with
  | nil =>
    obtain ⟨rfl, rfl⟩ := List.append_eq_nil_iff.1 hall
    exact ⟨s, .nil, .nil⟩
  | @snoc t u es e run step ih =>
    obtain rfl | ⟨front, e', rfl⟩ := post.eq_nil_or_concat
    · exact ⟨u, by rw [← List.append_nil pre, hall]; exact run.snoc step, .nil⟩
    · rw [List.concat_eq_append] at hall ⊢
      obtain ⟨hfront, he⟩ := List.append_inj' ((List.append_assoc pre front [e']).trans hall) rfl
      obtain rfl : e' = e := by simpa using he
      obtain ⟨v, first, second⟩ := ih hfront
      exact ⟨v, first, second.snoc step⟩

end Run

/-! ## What a run comes to -/

/-- Whatever the steps are, they come to a state with a property, and never stop before it. -/
inductive Inevitably {σ : Type} (Step : σ → σ → Prop) (P : σ → Prop) : σ → Prop where
  | now {s : σ} (here : P s) : Inevitably Step P s
  | next {s : σ} (progress : ∃ t, Step s t) (all : ∀ t, Step s t → Inevitably Step P t) :
    Inevitably Step P s

theorem Inevitably.imp {σ : Type} {Step : σ → σ → Prop} {P Q : σ → Prop} {s : σ}
    (h : Inevitably Step P s) (weaken : ∀ t, P t → Q t) : Inevitably Step Q s := by
  induction h with
  | now here => exact .now (weaken _ here)
  | next progress _ ih => exact .next progress ih

/-- Steps that keep an invariant and lower a rank come to an end. -/
theorem Inevitably.of_rank {σ : Type} {Step : σ → σ → Prop} {P I : σ → Prop} (rank : σ → Nat)
    (one : ∀ s, I s → Inevitably Step P s
      ∨ ((∃ t, Step s t) ∧ ∀ t, Step s t → Inevitably Step P t ∨ (I t ∧ rank t < rank s)))
    {s : σ} (start : I s) : Inevitably Step P s := by
  induction hn : rank s using Nat.strongRecOn generalizing s with
  | ind n ih =>
    obtain here | ⟨progress, all⟩ := one s start
    · exact here
    · refine .next progress fun t step => ?_
      obtain there | ⟨keeps, less⟩ := all t step
      · exact there
      · exact ih _ (hn ▸ less) keeps rfl

end NetAttach
