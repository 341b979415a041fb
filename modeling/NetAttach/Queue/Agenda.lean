-- SUMMARY: What is to happen later, by time and then by the order in which it was planned.

/-!
# Agendas

An agenda holds a clock in milliseconds and what is planned for later. The clock
moves to the next planned time at the earliest, and what is planned for the same time
happens in the order in which it was planned.
-/

namespace NetAttach

/-- A clock and plans. -/
structure Agenda (β : Type) where
  now : Nat
  /-- The plans with their times, in the order in which they were made. -/
  plans : List (Nat × β)
deriving Repr, DecidableEq

namespace Agenda

variable {β : Type}

/-- At the start nothing is planned. -/
def empty : Agenda β := ⟨0, []⟩

/-- Plan something for a time that is not over. -/
def plan (a : Agenda β) (time : Nat) (b : β) : Agenda β :=
  { a with plans := a.plans ++ [(max time a.now, b)] }

/-- Take plans of a kind off the agenda. -/
def cancel (a : Agenda β) (p : β → Bool) : Agenda β :=
  { a with plans := a.plans.filter fun q => !p q.2 }

/-- Whole milliseconds, rounded up from nanoseconds. -/
def milliseconds (nanoseconds : Nat) : Nat := (nanoseconds + 999999) / 1000000

/-- The earliest planned time. -/
def next? (a : Agenda β) : Option Nat := (a.plans.map (·.1)).min?

/-- Move the clock forward and take out what is planned until then. It is complete and in the right
order if the clock moves no further than to the next planned time. -/
def moveTo (a : Agenda β) (time : Nat) : List β × Agenda β :=
  let (due, later) := a.plans.partition fun p => p.1 ≤ time
  (due.map (·.2), { now := max a.now time, plans := later })

theorem length_moveTo (a : Agenda β) (time : Nat) :
    (a.moveTo time).2.plans.length + (a.moveTo time).1.length = a.plans.length := by
  unfold moveTo
  simp only [List.partition_eq_filter_filter, List.length_map]
  induction a.plans with
  | nil => rfl
  | cons p r ih =>
    by_cases h : p.1 ≤ time <;> simp [h] at * <;> omega

theorem moveTo_next_ne_nil {a : Agenda β} {time : Nat} (h : a.next? = some time) :
    (a.moveTo time).1 ≠ [] := by
  unfold next? at h
  have hm := List.min?_mem h
  obtain ⟨p, hp, hpt⟩ := List.mem_map.1 hm
  unfold moveTo
  simp only [List.partition_eq_filter_filter]
  intro hnil
  have : p ∈ a.plans.filter fun p => p.1 ≤ time := by
    simp [hp, hpt]
  rw [List.map_eq_nil_iff] at hnil
  rw [hnil] at this
  cases this

end Agenda

end NetAttach
