-- SUMMARY: The items that a single worker has yet to get, whether they wait, are held back or are delayed.
import NetAttach.Proofs.WorkQueue
import NetAttach.Queue.Delayed

/-!
# The line of a single worker

With one worker and at most one item that is ever delayed, the items to come have an
order that delays do not disturb: those that wait come first, then what is held back or
delayed. An item is delivered from the head of this line, and a failed item joins it at
its end.
-/

namespace NetAttach

variable {α : Type} [DecidableEq α]

namespace WorkQueue

/-- The items that were added while they are processed. -/
def heldBack (q : WorkQueue α) : List α := q.processing.filter fun x => q.dirty.contains x

end WorkQueue

/-- A queue with a single worker, which processes one item or none. Nothing but the item `a` is held
back or delayed. -/
structure Line (q : WorkQueue α) (later : List α) (processed : Option α) (a : α) (line : List α) :
    Prop where
  open_ : q.closed = false
  orderly : q.Orderly
  processing : q.processing = processed.toList
  items : line = q.waiting ++ (q.heldBack ++ later)
  delayed : ∀ x ∈ q.heldBack ++ later, x = a
  nodup : line.Nodup

namespace Line

variable {q r : WorkQueue α} {later front back line : List α} {processed : Option α} {a x : α}

theorem heldBack_of_none (h : Line q later none a line) : q.heldBack = [] := by
  rw [WorkQueue.heldBack, h.processing]
  rfl

theorem nil_iff (h : Line q later none a line) : line = [] ↔ q.waiting = [] ∧ later = [] := by
  rw [h.items, h.heldBack_of_none]
  simp

/-- An item that is added joins the line, if it is not in it. -/
theorem add (h : Line q [] none a line) (hx : x ∉ line) : Line (q.add x) [] none a (line ++ [x]) := by
  have items := h.items
  rw [h.heldBack_of_none, List.append_nil, List.append_nil] at items
  have hd : x ∉ q.dirty := fun hd =>
    hx (items ▸ (h.orderly.mem_waiting x).2 ⟨hd, by simp [h.processing]⟩)
  have accepts : q.accepts x = true := WorkQueue.accepts_iff.2 ⟨h.open_, hd⟩
  have added : q.add x = { q with dirty := x :: q.dirty, waiting := q.waiting ++ [x] } := by
    simp [WorkQueue.add, accepts, h.processing]
  have none' : (q.add x).heldBack = [] := by
    rw [added, WorkQueue.heldBack]
    simp [h.processing]
  refine ⟨by rw [added]; exact h.open_, WorkQueue.orderly_add h.orderly x, ?_, ?_, ?_, ?_⟩
  · rw [added]
    exact h.processing
  · rw [none', items, added]
    simp
  · rw [none']
    exact List.forall_mem_nil _
  · have := h.nodup
    grind

/-- If an item is delayed, nothing else is held back or delayed. -/
theorem alone (h : Line q (front ++ x :: back) processed a line) :
    q.heldBack = [] ∧ front = [] ∧ back = [] := by
  have nodup := h.nodup
  rw [h.items] at nodup
  have nodup := (List.nodup_append.1 nodup).2.1
  have hx : x = a := h.delayed x (by simp)
  have same : ∀ y ∈ q.heldBack ++ (front ++ x :: back), y = x := fun y hy =>
    (h.delayed y hy).trans hx.symm
  refine ⟨?_, ?_, ?_⟩ <;> refine List.eq_nil_iff_forall_not_mem.2 fun y hy => ?_ <;>
    have hy' := same y (by simp [hy]) <;> grind

/-- A delay that is over leaves the line as it is. -/
theorem due (h : Line q (front ++ x :: back) processed a line) :
    Line (q.add x) (front ++ back) processed a line := by
  have items := h.items
  have nodup := h.nodup
  have all := h.delayed
  obtain ⟨hheld, rfl, rfl⟩ := h.alone
  rw [hheld, List.nil_append, List.nil_append] at items
  have hd : x ∉ q.dirty := by
    intro hd
    by_cases hp : x ∈ q.processing
    · have : x ∈ q.heldBack := List.mem_filter.2 ⟨hp, by simpa using hd⟩
      rw [hheld] at this
      cases this
    · have hw := (h.orderly.mem_waiting x).2 ⟨hd, hp⟩
      rw [items] at nodup
      exact (List.nodup_append.1 nodup).2.2 x hw x (by simp) rfl
  have accepts : q.accepts x = true := WorkQueue.accepts_iff.2 ⟨h.open_, hd⟩
  have closed : (q.add x).closed = false := by
    rw [WorkQueue.add, if_pos accepts]
    exact h.open_
  have processing : (q.add x).processing = q.processing := by
    rw [WorkQueue.add, if_pos accepts]
  have line' : line = (q.add x).waiting ++ ((q.add x).heldBack ++ []) := by
    have others : q.processing.filter (fun y => q.dirty.contains y) = [] := hheld
    rw [items, WorkQueue.heldBack, WorkQueue.add, if_pos accepts]
    cases processed with
    | none =>
      simp [h.processing]
    | some y =>
      rw [h.processing] at others ⊢
      by_cases hxy : x = y
      · subst hxy
        simp
      · have : y ∉ q.dirty := by simpa using others
        simp [hxy, Ne.symm hxy, this]
  refine ⟨closed, WorkQueue.orderly_add h.orderly x, processing.trans h.processing, line', ?_, nodup⟩
  intro y hy
  have hy : y ∈ (q.add x).heldBack := by simpa using hy
  rw [WorkQueue.heldBack, WorkQueue.add, if_pos accepts, List.mem_filter] at hy
  obtain ⟨hp, hd'⟩ := hy
  obtain rfl | hd' := List.mem_cons.1 (List.contains_iff_mem.1 hd')
  · exact all y (by simp)
  · have : y ∈ q.heldBack := List.mem_filter.2 ⟨hp, by simpa using hd'⟩
    rw [hheld] at this
    cases this

/-- What is delivered is the head of the line. -/
theorem take (h : Line q later none a line) (taken : q.take? = some (x, r)) :
    ∃ rest, line = x :: rest ∧ Line r later (some x) a rest := by
  obtain ⟨hw, hd, hp, hclosed⟩ := WorkQueue.take?_eq_some taken
  have items := h.items
  have nodup := h.nodup
  rw [h.heldBack_of_none, hw, List.nil_append, List.cons_append] at items
  have processing : r.processing = [x] := by rw [hp, h.processing]; rfl
  have none' : r.heldBack = [] := by
    rw [WorkQueue.heldBack, processing, hd]
    simp [h.orderly.dirty_nodup.mem_erase_iff]
  refine ⟨r.waiting ++ later, items, hclosed.trans h.open_, WorkQueue.orderly_take h.orderly taken,
    processing, by rw [none', List.nil_append], fun y hy => ?_, ?_⟩
  · rw [none', List.nil_append] at hy
    exact h.delayed y (List.mem_append_right _ hy)
  · rw [items] at nodup
    exact (List.nodup_cons.1 nodup).2

/-- An item that failed is delayed at the end of the line. -/
theorem delay (h : Line q later (some a) a line) (ha : a ∉ line) :
    Line q (later ++ [a]) (some a) a (line ++ [a]) := by
  have items := h.items
  refine ⟨h.open_, h.orderly, h.processing, by rw [items]; simp, fun y hy => ?_, ?_⟩
  · rw [← List.append_assoc] at hy
    obtain hy | hy := List.mem_append.1 hy
    · exact h.delayed y hy
    · exact List.mem_singleton.1 hy
  · have := h.nodup
    grind

/-- An item that is marked as done leaves the line as it is. -/
theorem done (h : Line q later (some x) a line) : Line (q.done x) later none a line := by
  have hx : x ∈ q.processing := by simp [h.processing]
  have processing : (q.done x).processing = [] := by
    show q.processing.erase x = []
    rw [h.processing]
    simp
  have none' : (q.done x).heldBack = [] := by rw [WorkQueue.heldBack, processing]; rfl
  have held : q.heldBack = if q.dirty.contains x then [x] else [] := by
    rw [WorkQueue.heldBack, h.processing]
    simp [List.filter_cons]
  refine ⟨h.open_, WorkQueue.orderly_done h.orderly hx, processing, ?_, fun y hy => ?_, h.nodup⟩
  · rw [none', h.items, held, WorkQueue.done, WorkQueue.releases]
    by_cases hd : x ∈ q.dirty <;> simp [hd]
  · rw [none', List.nil_append] at hy
    exact h.delayed y (List.mem_append_right _ hy)

end Line

/-! ## Delays -/

/-- The limiter of a controller: a back-off for each item together with a bucket for all. -/
def Limiter.IsStandard (l : Limiter α) : Prop :=
  ∃ failures tokens, l = .maxOf [.exponential (5 * millisecond) (1000 * second) failures, .bucket tokens]

namespace RateQueue

variable {q : RateQueue α} {x y : α}

theorem isStandard_forget (h : q.limiter.IsStandard) (x : α) :
    (q.forget x).limiter.IsStandard := by
  obtain ⟨failures, tokens, hl⟩ := h
  exact ⟨failures.clear x, tokens, by simp [forget, hl, Limiter.forget, Limiter.forgetAll]⟩

theorem retries_forget (h : q.limiter.IsStandard) (x y : α) :
    (q.forget x).retries y = if y = x then 0 else q.retries y := by
  obtain ⟨failures, tokens, hl⟩ := h
  simp [retries, forget, hl, Limiter.forget, Limiter.forgetAll, Limiter.retries, Limiter.retriesAll,
    Tally.count_clear]

theorem backoff_pos (failures : Nat) : 0 < backoff (5 * millisecond) (1000 * second) failures := by
  have factor : 0 < backoffFactor failures := by
    unfold backoffFactor
    split
    · rw [Nat.one_shiftLeft]
      exact Nat.two_pow_pos failures
    · decide
  unfold backoff
  dsimp only
  split
  · exact Nat.lt_min.2 ⟨Nat.mul_pos (by decide) factor, by decide⟩
  · decide

theorem retries_nextDelay_of_ne (h : q.limiter.IsStandard) (clock : Nat) (hy : y ≠ x) :
    (q.nextDelay clock x).2.retries y = q.retries y := by
  obtain ⟨failures, tokens, hl⟩ := h
  simp [nextDelay, retries, hl, Limiter.delay, Limiter.delayAll, Limiter.retries,
    Limiter.retriesAll, Tally.count_bump, hy]

/-- A failure is counted, and there is always a delay after it. -/
theorem nextDelay_spec (h : q.limiter.IsStandard) (clock : Nat) (x : α) :
    0 < (q.nextDelay clock x).1 ∧ (q.nextDelay clock x).2.limiter.IsStandard
      ∧ (q.nextDelay clock x).2.shared = q.shared
      ∧ (q.nextDelay clock x).2.retries x = min (q.retries x + 1) Tally.maxCount := by
  obtain ⟨failures, tokens, hl⟩ := h
  refine ⟨?_, ⟨failures.bump x, (tokens.take clock).2, ?_⟩, rfl, ?_⟩
  · unfold nextDelay
    rw [hl]
    exact Nat.lt_of_lt_of_le (backoff_pos (failures.count x)) (Nat.le_max_left _ _)
  · simp [nextDelay, hl, Limiter.delay, Limiter.delayAll]
  · simp [nextDelay, retries, hl, Limiter.delay, Limiter.delayAll, Limiter.retries,
      Limiter.retriesAll, Tally.count_bump]

/-- An item that failed is added later, as long as the queue is open. -/
theorem addAfter_nextDelay (h : q.limiter.IsStandard) (open_ : q.shared.queue.closed = false)
    (clock : Nat) (x : α) :
    (q.nextDelay clock x).2.addAfter x (q.nextDelay clock x).1 = (true, (q.nextDelay clock x).2) := by
  obtain ⟨positive, -, shared, -⟩ := nextDelay_spec h clock x
  unfold addAfter
  rw [shared, if_neg (by simp [open_]), if_neg (Nat.ne_of_gt positive)]

end RateQueue

end NetAttach
