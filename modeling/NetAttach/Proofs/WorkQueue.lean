-- SUMMARY: What every run of a work queue keeps: an item waits once, one worker holds it, and no add is lost.
import NetAttach.Proofs.Run
import NetAttach.Queue.Shared

/-!
# Work queues in use

Any number of workers get items and mark them as done, while items are added and the
queue is shut down, in any order of their single steps. A worker marks an item as done
only if it holds it. Two facts carry everything else: `WorkQueue.Orderly` ties the
three collections of a queue together, and `QueueInUse.Sound` says that the items in
processing are those that the workers hold.
-/

namespace NetAttach

variable {α : Type}

/-! ## One queue -/

namespace WorkQueue

/-- Items wait, are dirty and are processed at most once each, and those that wait are the dirty ones
that are not processed. -/
structure Orderly (q : WorkQueue α) : Prop where
  waiting_nodup : q.waiting.Nodup
  dirty_nodup : q.dirty.Nodup
  processing_nodup : q.processing.Nodup
  mem_waiting : ∀ x, x ∈ q.waiting ↔ x ∈ q.dirty ∧ x ∉ q.processing

theorem Orderly.not_processing {q : WorkQueue α} (h : q.Orderly) {x : α} (hx : x ∈ q.waiting) :
    x ∉ q.processing := ((h.mem_waiting x).1 hx).2

theorem orderly_empty : (empty : WorkQueue α).Orderly := by
  constructor <;> simp [empty]

theorem orderly_shutDown {q : WorkQueue α} (h : q.Orderly) : q.shutDown.Orderly :=
  ⟨h.waiting_nodup, h.dirty_nodup, h.processing_nodup, h.mem_waiting⟩

/-- An item that does not wait can start to wait. -/
private theorem Orderly.waiting_snoc {q : WorkQueue α} (h : q.Orderly) {x : α}
    (hx : x ∉ q.waiting) : (q.waiting ++ [x]).Nodup := by
  have := h.waiting_nodup
  grind

variable [DecidableEq α]

theorem accepts_iff {q : WorkQueue α} {x : α} :
    q.accepts x = true ↔ q.closed = false ∧ x ∉ q.dirty := by
  simp [accepts]

theorem take?_eq_some {q r : WorkQueue α} {x : α} (h : q.take? = some (x, r)) :
    q.waiting = x :: r.waiting ∧ r.dirty = q.dirty.erase x
      ∧ r.processing = q.processing.insert x ∧ r.closed = q.closed := by
  unfold take? at h
  split at h
  · cases h
  · next y rest hq =>
    obtain ⟨rfl, rfl⟩ := Prod.mk.inj (Option.some.inj h)
    exact ⟨hq, rfl, rfl, rfl⟩

theorem take?_eq_none {q : WorkQueue α} : q.take? = none ↔ q.waiting = [] := by
  unfold take?
  split
  · next empty => exact iff_of_true rfl empty
  · next x rest some => simp [some]

@[simp] theorem processing_add (q : WorkQueue α) (x : α) :
    (q.add x).processing = q.processing := by
  unfold add; split <;> rfl

@[simp] theorem closed_add (q : WorkQueue α) (x : α) : (q.add x).closed = q.closed := by
  unfold add; split <;> rfl

theorem waiting_add {q : WorkQueue α} {x : α} (h : ¬q.enqueues x = true) :
    (q.add x).waiting = q.waiting := by
  unfold add
  split
  · next accepts =>
    have held : x ∈ q.processing := by simpa [enqueues, accepts] using h
    simp [held]
  · rfl

theorem orderly_add {q : WorkQueue α} (h : q.Orderly) (x : α) : (q.add x).Orderly := by
  unfold add
  split
  · next hacc =>
    have hx : x ∉ q.dirty := (accepts_iff.1 hacc).2
    have hw : x ∉ q.waiting := fun hm => hx ((h.mem_waiting x).1 hm).1
    have hdirty : (x :: q.dirty).Nodup := List.nodup_cons.2 ⟨hx, h.dirty_nodup⟩
    by_cases hp : x ∈ q.processing
    · refine ⟨by simpa [hp] using h.waiting_nodup, hdirty, h.processing_nodup, ?_⟩
      intro y
      by_cases hy : y = x
      · subst hy; simp [hp, hw]
      · simp [hp, hy, h.mem_waiting]
    · refine ⟨by simpa [hp] using h.waiting_snoc hw, hdirty, h.processing_nodup, ?_⟩
      intro y
      by_cases hy : y = x
      · subst hy; simp [hp]
      · simp [hp, hy, h.mem_waiting]
  · exact h

theorem orderly_take {q r : WorkQueue α} {x : α} (h : q.Orderly) (ht : q.take? = some (x, r)) :
    r.Orderly := by
  obtain ⟨hq, hdirty, hprocessing, -⟩ := take?_eq_some ht
  obtain ⟨hx, hrest⟩ := List.nodup_cons.1 (hq ▸ h.waiting_nodup)
  have hp : x ∉ q.processing := h.not_processing (by simp [hq])
  refine ⟨hrest, hdirty ▸ h.dirty_nodup.erase x, ?_, ?_⟩
  · simpa [hprocessing, hp] using h.processing_nodup
  · intro y
    have hm := h.mem_waiting y
    rw [hq, List.mem_cons] at hm
    simp only [hdirty, hprocessing, h.dirty_nodup.mem_erase_iff, List.mem_insert_iff]
    by_cases hy : y = x
    · subst hy; simp [hx]
    · simp only [hy, false_or] at hm
      simp [hy, hm]

theorem orderly_done {q : WorkQueue α} (h : q.Orderly) {x : α} (hx : x ∈ q.processing) :
    (q.done x).Orderly := by
  have hw : x ∉ q.waiting := fun hm => h.not_processing hm hx
  unfold done releases
  by_cases hd : x ∈ q.dirty
  · refine ⟨by simpa [hd] using h.waiting_snoc hw, h.dirty_nodup,
      h.processing_nodup.erase _, ?_⟩
    intro y
    by_cases hy : y = x
    · subst hy; simp [hd, h.processing_nodup.mem_erase_iff]
    · simp [hd, hy, h.processing_nodup.mem_erase_iff, h.mem_waiting]
  · refine ⟨by simpa [hd] using h.waiting_nodup, h.dirty_nodup, h.processing_nodup.erase _, ?_⟩
    intro y
    by_cases hy : y = x
    · subst hy; simp [hd, hw]
    · simp [hd, hy, h.processing_nodup.mem_erase_iff, h.mem_waiting]

end WorkQueue

/-! ## Queues with workers -/

/-- What the users of a queue do in one step. -/
inductive QueueAct (α : Type) where
  | add (x : α)
  /-- A worker gets an item. -/
  | get (worker : Nat) (x : α)
  /-- A worker registers, starts anew, looks in vain, or leaves. -/
  | wait (worker : Nat)
  | done (worker : Nat) (x : α)
  | shutDown
deriving DecidableEq

/-- A step on record: what was done, and the queue before and after it. -/
structure QueueEvent (α : Type) where
  act : QueueAct α
  before : WorkQueue α
  after : WorkQueue α

/-- A queue, and which worker holds which item: it got the item and did not mark it as done since. -/
structure QueueInUse (α : Type) where
  shared : SharedQueue α
  held : List (Nat × α)

/-- A getter that does not sleep and was not woken has yet to look at the queue. -/
theorem Getter.unchecked {g : Getter} (awake : ¬g.asleep = true) (unwoken : ¬g.woken = true) :
    g.checked = false := by
  cases hc : g.checked <;> cases hs : g.signal <;> simp_all [asleep, woken]

namespace SharedQueue

variable (q : SharedQueue α)

@[simp] theorem queue_notifyOne : q.notifyOne.queue = q.queue := by
  unfold notifyOne; split <;> rfl

@[simp] theorem queue_drop (i : Nat) : (q.drop i).queue = q.queue := rfl

@[simp] theorem queue_leave (i : Nat) : (q.leave i).queue = q.queue := by
  unfold leave
  split
  · split <;> simp
  · rfl

@[simp] theorem queue_register (i : Nat) : (q.register i).queue = q.queue := by
  unfold register; split <;> rfl

@[simp] theorem queue_shutDown : q.shutDown.queue = q.queue.shutDown := rfl

variable [DecidableEq α]

@[simp] theorem queue_add (x : α) : (q.add x).queue = q.queue.add x := by
  unfold add; dsimp only; split <;> simp

@[simp] theorem queue_done (x : α) : (q.done x).queue = q.queue.done x := by
  unfold done; dsimp only; split <;> simp

/-- Who looks gets the oldest item that waits, and leaves the queue as it is if there is none. -/
theorem queue_check (i : Nat) :
    (∃ x, (q.check i).1 = some (.item x) ∧ q.queue.take? = some (x, (q.check i).2.queue))
      ∨ ((∀ x, (q.check i).1 ≠ some (.item x)) ∧ q.queue.take? = none
          ∧ (q.check i).2.queue = q.queue) := by
  unfold check
  split
  · next x rest ht => exact .inl ⟨x, rfl, by simpa using ht⟩
  · next ht =>
    refine .inr ?_
    split <;> simp [ht]

end SharedQueue

namespace QueueInUse

/-- No item, no worker. -/
def start : QueueInUse α := ⟨.empty, []⟩

/-- The queue itself. -/
def queue (s : QueueInUse α) : WorkQueue α := s.shared.queue

/-- The queue is orderly, and its items in processing are those that the workers hold. -/
structure Sound (s : QueueInUse α) : Prop where
  orderly : s.queue.Orderly
  held : (s.held.map Prod.snd).Perm s.queue.processing

theorem sound_start : (start : QueueInUse α).Sound := ⟨WorkQueue.orderly_empty, .nil⟩

theorem Sound.mem_processing {s : QueueInUse α} (h : s.Sound) {x : α} :
    x ∈ s.queue.processing ↔ ∃ w, (w, x) ∈ s.held := by
  rw [← h.held.mem_iff]
  simp

/-- No item is held twice, by one worker or by two. -/
theorem Sound.held_nodup {s : QueueInUse α} (h : s.Sound) : (s.held.map Prod.snd).Nodup :=
  h.held.nodup_iff.2 h.orderly.processing_nodup

variable [DecidableEq α]

/-- One step of anyone. An item is marked as done by a worker that holds it. -/
inductive Step : QueueInUse α → QueueAct α → QueueInUse α → Prop where
  | add (s : QueueInUse α) (x : α) : Step s (.add x) { s with shared := s.shared.add x }
  | register (s : QueueInUse α) (w : Nat) :
    Step s (.wait w) { s with shared := s.shared.register w }
  | restart (s : QueueInUse α) (w : Nat) : Step s (.wait w) { s with shared := s.shared.drop w }
  | leave (s : QueueInUse α) (w : Nat) : Step s (.wait w) { s with shared := s.shared.leave w }
  | look {s : QueueInUse α} {w : Nat} (vain : ∀ x, (s.shared.check w).1 ≠ some (.item x)) :
    Step s (.wait w) { s with shared := (s.shared.check w).2 }
  | get {s : QueueInUse α} {w : Nat} {x : α} (got : (s.shared.check w).1 = some (.item x)) :
    Step s (.get w x) ⟨(s.shared.check w).2, (w, x) :: s.held⟩
  | done {s : QueueInUse α} {w : Nat} {x : α} (holds : (w, x) ∈ s.held) :
    Step s (.done w x) ⟨s.shared.done x, s.held.erase (w, x)⟩
  | shutDown (s : QueueInUse α) : Step s .shutDown { s with shared := s.shared.shutDown }

/-- A step together with its record. -/
def Recorded (s : QueueInUse α) (e : QueueEvent α) (t : QueueInUse α) : Prop :=
  Step s e.act t ∧ e.before = s.queue ∧ e.after = t.queue

theorem Step.record {s t : QueueInUse α} {a : QueueAct α} (h : Step s a t) :
    Recorded s ⟨a, s.queue, t.queue⟩ t := ⟨h, rfl, rfl⟩

/-- All that a step does to the queue itself and to what the workers hold. -/
theorem Step.spec {s t : QueueInUse α} {a : QueueAct α} (h : Step s a t) :
    match a with
    | .add x => t.queue = s.queue.add x ∧ t.held = s.held
    | .get w x => s.queue.take? = some (x, t.queue) ∧ t.held = (w, x) :: s.held
    | .wait _ => t.queue = s.queue ∧ t.held = s.held
    | .done w x => (w, x) ∈ s.held ∧ t.queue = s.queue.done x ∧ t.held = s.held.erase (w, x)
    | .shutDown => t.queue = s.queue.shutDown ∧ t.held = s.held := by
  cases h with
  | add x => exact ⟨SharedQueue.queue_add _ x, rfl⟩
  | register w => exact ⟨SharedQueue.queue_register _ w, rfl⟩
  | restart w => exact ⟨rfl, rfl⟩
  | leave w => exact ⟨SharedQueue.queue_leave _ w, rfl⟩
  | @look w vain =>
    obtain ⟨x, got, -⟩ | ⟨-, -, same⟩ := s.shared.queue_check w
    · exact absurd got (vain x)
    · exact ⟨same, rfl⟩
  | @get w x got =>
    obtain ⟨y, goty, took⟩ | ⟨vain, -⟩ := s.shared.queue_check w
    · obtain rfl : y = x := by simpa [goty] using got
      exact ⟨took, rfl⟩
    · exact absurd got (vain x)
  | done holds => exact ⟨holds, SharedQueue.queue_done _ _, rfl⟩
  | shutDown => exact ⟨rfl, rfl⟩

/-! ## What every state satisfies -/

theorem Sound.step {s t : QueueInUse α} {a : QueueAct α} (h : s.Sound) (step : Step s a t) :
    t.Sound := by
  have spec := step.spec
  cases a with
  | add x =>
    obtain ⟨hq, hheld⟩ := spec
    refine ⟨hq ▸ WorkQueue.orderly_add h.orderly x, ?_⟩
    rw [hheld, hq, WorkQueue.processing_add]
    exact h.held
  | get w x =>
    obtain ⟨ht, hheld⟩ := spec
    obtain ⟨hw, -, hp, -⟩ := WorkQueue.take?_eq_some ht
    have hx : x ∉ s.queue.processing := h.orderly.not_processing (by simp [hw])
    refine ⟨WorkQueue.orderly_take h.orderly ht, ?_⟩
    rw [hheld, hp, List.insert_of_not_mem hx, List.map_cons]
    exact h.held.cons x
  | wait w =>
    obtain ⟨hq, hheld⟩ := spec
    exact ⟨hq ▸ h.orderly, by rw [hq, hheld]; exact h.held⟩
  | done w x =>
    obtain ⟨hmem, hq, hheld⟩ := spec
    have hx : x ∈ s.queue.processing := h.mem_processing.2 ⟨w, hmem⟩
    refine ⟨hq ▸ WorkQueue.orderly_done h.orderly hx, ?_⟩
    -- both sides lose one `x`
    have hleft : (s.held.map Prod.snd).Perm (x :: (s.held.erase (w, x)).map Prod.snd) :=
      (List.perm_cons_erase hmem).map Prod.snd
    have hright : s.queue.processing.Perm (x :: s.queue.processing.erase x) :=
      List.perm_cons_erase hx
    rw [hheld, hq]
    exact (hleft.symm.trans (h.held.trans hright)).cons_inv
  | shutDown =>
    obtain ⟨hq, hheld⟩ := spec
    refine ⟨hq ▸ WorkQueue.orderly_shutDown h.orderly, ?_⟩
    rw [hheld, hq]
    exact h.held

theorem Sound.run {s : QueueInUse α} {es : List (QueueEvent α)} (h : Run Recorded start es s) :
    s.Sound :=
  h.invariant (fun sound step => sound.step step.1) sound_start

end QueueInUse

/-! ## What a record says -/

namespace QueueEvent

/-- The items that start to wait with a step. -/
def started [DecidableEq α] (e : QueueEvent α) : List α :=
  e.after.waiting.filter fun x => !e.before.waiting.contains x

/-- The item that a worker gets with a step. -/
def delivered? (e : QueueEvent α) : Option α :=
  match e.act with
  | .get _ x => some x
  | _ => none

/-- The step adds an item that the queue takes in: it is open, and the item is not dirty. -/
def takesIn [DecidableEq α] (x : α) (e : QueueEvent α) : Bool :=
  e.act = .add x && e.before.accepts x

end QueueEvent

/-- The items that started to wait, in that order. -/
def arrivals [DecidableEq α] (es : List (QueueEvent α)) : List α := es.flatMap QueueEvent.started

/-- The items that workers got, in that order. -/
def deliveries (es : List (QueueEvent α)) : List α := es.filterMap QueueEvent.delivered?

namespace QueueInUse

variable [DecidableEq α]

private theorem filter_not_mem_self (xs : List α) : xs.filter (fun x => !xs.contains x) = [] := by
  simp [List.filter_eq_nil_iff]

private theorem filter_snoc_not_mem {xs : List α} {x : α} (hx : x ∉ xs) :
    (xs ++ [x]).filter (fun y => !xs.contains y) = [x] := by
  rw [List.filter_append, filter_not_mem_self]
  simp [hx]

/-- What starts to wait with a step joins the line at its end, and what is got leaves it at its
head. -/
theorem Recorded.line {s t : QueueInUse α} {e : QueueEvent α} (sound : s.Sound)
    (h : Recorded s e t) :
    s.queue.waiting ++ e.started = e.delivered?.toList ++ t.queue.waiting := by
  obtain ⟨act, before, after⟩ := e
  obtain ⟨step, rfl, rfl⟩ := h
  have spec := step.spec
  cases act with
  | add x =>
    obtain ⟨hq, -⟩ := spec
    simp only [QueueEvent.started, QueueEvent.delivered?, hq, Option.toList, List.nil_append]
    unfold WorkQueue.add
    split
    · next hacc =>
      have hw : x ∉ s.queue.waiting := fun hm =>
        (WorkQueue.accepts_iff.1 hacc).2 ((sound.orderly.mem_waiting x).1 hm).1
      by_cases hp : s.queue.processing.contains x = true
      · simp only [hp, if_true, filter_not_mem_self, List.append_nil]
      · simp only [hp, if_false, filter_snoc_not_mem hw, Bool.false_eq_true]
    · simp only [filter_not_mem_self, List.append_nil]
  | get w x =>
    obtain ⟨ht, -⟩ := spec
    obtain ⟨hw, -⟩ := WorkQueue.take?_eq_some ht
    simp only [QueueEvent.started, QueueEvent.delivered?, hw, Option.toList]
    have hnone : t.queue.waiting.filter (fun y => !(x :: t.queue.waiting).contains y) = [] := by
      simp +contextual [List.filter_eq_nil_iff]
    rw [hnone]
    simp
  | wait w =>
    obtain ⟨hq, -⟩ := spec
    simp only [QueueEvent.started, QueueEvent.delivered?, hq, Option.toList, filter_not_mem_self]
    simp
  | done w x =>
    obtain ⟨hmem, hq, -⟩ := spec
    have hx : x ∈ s.queue.processing := sound.mem_processing.2 ⟨w, hmem⟩
    have hw : x ∉ s.queue.waiting := fun hm => sound.orderly.not_processing hm hx
    simp only [QueueEvent.started, QueueEvent.delivered?, hq, Option.toList, List.nil_append]
    unfold WorkQueue.done
    by_cases hr : s.queue.releases x = true
    · simp only [hr, if_true, filter_snoc_not_mem hw]
    · simp only [hr, if_false, filter_not_mem_self, Bool.false_eq_true, List.append_nil]
  | shutDown =>
    obtain ⟨hq, -⟩ := spec
    simp only [QueueEvent.started, QueueEvent.delivered?, hq, Option.toList, WorkQueue.shutDown,
      filter_not_mem_self]
    simp

/-- An item that the queue takes in becomes dirty, and stays so until it is got. -/
theorem Recorded.dirty {s t : QueueInUse α} {e : QueueEvent α} (sound : s.Sound)
    (h : Recorded s e t) (x : α) :
    (if x ∈ s.queue.dirty then 1 else 0) + (if e.takesIn x then 1 else 0)
      = (if e.delivered? = some x then 1 else 0) + if x ∈ t.queue.dirty then 1 else 0 := by
  obtain ⟨act, before, after⟩ := e
  obtain ⟨step, rfl, rfl⟩ := h
  have spec := step.spec
  cases act with
  | add y =>
    obtain ⟨hq, -⟩ := spec
    simp only [QueueEvent.takesIn, QueueEvent.delivered?, hq]
    unfold WorkQueue.add
    by_cases hacc : s.queue.accepts y = true
    · have hy : y ∉ s.queue.dirty := (WorkQueue.accepts_iff.1 hacc).2
      by_cases hxy : x = y
      · subst hxy; simp [hacc, hy]
      · simp [hacc, hxy, Ne.symm hxy]
    · by_cases hxy : x = y
      · subst hxy; simp [hacc]
      · simp [hacc, Ne.symm hxy]
  | get w y =>
    obtain ⟨ht, -⟩ := spec
    obtain ⟨hw, hd, -⟩ := WorkQueue.take?_eq_some ht
    have hy : y ∈ s.queue.dirty := ((sound.orderly.mem_waiting y).1 (by simp [hw])).1
    simp only [QueueEvent.takesIn, QueueEvent.delivered?, hd, sound.orderly.dirty_nodup.mem_erase_iff]
    by_cases hxy : x = y
    · subst hxy; simp [hy]
    · simp [hxy, Ne.symm hxy]
  | wait w => simp [QueueEvent.takesIn, QueueEvent.delivered?, spec.1]
  | done w y => simp [QueueEvent.takesIn, QueueEvent.delivered?, spec.2.1, WorkQueue.done]
  | shutDown => simp [QueueEvent.takesIn, QueueEvent.delivered?, spec.1, WorkQueue.shutDown]

/-! ## Whole runs -/

/-- Items are got in the order in which they started to wait. -/
theorem arrivals_of_run {s : QueueInUse α} {es : List (QueueEvent α)} (h : Run Recorded start es s) :
    arrivals es = deliveries es ++ s.queue.waiting := by
  have both := h.invariant_with
    (I := fun es s => s.Sound ∧ arrivals es = deliveries es ++ s.queue.waiting) ?_ ⟨sound_start, rfl⟩
  · exact both.2
  · rintro es t e u ⟨sound, line⟩ step
    refine ⟨sound.step step.1, ?_⟩
    have hone : deliveries [e] = e.delivered?.toList := by
      cases he : e.delivered? <;> simp [deliveries, he]
    calc arrivals (es ++ [e]) = deliveries es ++ (t.queue.waiting ++ e.started) := by
          simpa [arrivals] using congrArg (· ++ e.started) line
      _ = deliveries es ++ (e.delivered?.toList ++ u.queue.waiting) := by rw [step.line sound]
      _ = deliveries (es ++ [e]) ++ u.queue.waiting := by
          simp [deliveries, ← hone]

/-- An item is got once for each time that it was taken in, and is dirty if once is still to come. -/
theorem takesIn_of_run {s : QueueInUse α} {es : List (QueueEvent α)} (h : Run Recorded start es s)
    (x : α) :
    es.countP (QueueEvent.takesIn x)
      = (deliveries es).count x + if x ∈ s.queue.dirty then 1 else 0 := by
  have both := h.invariant_with
    (I := fun es s => s.Sound ∧ es.countP (QueueEvent.takesIn x)
      = (deliveries es).count x + if x ∈ s.queue.dirty then 1 else 0) ?_ ⟨sound_start, rfl⟩
  · exact both.2
  · rintro es t e u ⟨sound, count⟩ step
    refine ⟨sound.step step.1, ?_⟩
    have hone : (deliveries [e]).count x = if e.delivered? = some x then 1 else 0 := by
      cases he : e.delivered? <;> simp [deliveries, he, List.count_singleton]
    have hsplit : deliveries (es ++ [e]) = deliveries es ++ deliveries [e] := List.filterMap_append
    have hdirty := step.dirty sound x
    rw [List.countP_append, List.countP_singleton, hsplit, List.count_append, hone, count]
    omega

/-- A dirty item stays dirty until it is got. -/
theorem delivered_or_dirty {s t : QueueInUse α} {es : List (QueueEvent α)} (sound : s.Sound)
    (h : Run Recorded s es t) {x : α} (hx : x ∈ s.queue.dirty) :
    x ∈ deliveries es ∨ x ∈ t.queue.dirty := by
  have both := h.invariant_with
    (I := fun es t => t.Sound ∧ (x ∈ deliveries es ∨ x ∈ t.queue.dirty)) ?_ ⟨sound, .inr hx⟩
  · exact both.2
  · rintro es t e u ⟨sound, owed⟩ step
    refine ⟨sound.step step.1, ?_⟩
    have hsplit : deliveries (es ++ [e]) = deliveries es ++ deliveries [e] := List.filterMap_append
    rw [hsplit, List.mem_append]
    obtain got | hd := owed
    · exact .inl (.inl got)
    · have hdirty := step.dirty sound x
      by_cases got : e.delivered? = some x
      · exact .inl (.inr (by simp [deliveries, got]))
      · by_cases hu : x ∈ u.queue.dirty
        · exact .inr hu
        · simp [hd, got, hu] at hdirty

/-- An item is dirty after it was added to an open queue, whether it was so before or not. -/
theorem Recorded.dirty_of_add {s t : QueueInUse α} {e : QueueEvent α} (h : Recorded s e t) {x : α}
    (hadd : e.act = .add x) (hopen : e.before.closed = false) : x ∈ t.queue.dirty := by
  obtain ⟨act, before, after⟩ := e
  obtain ⟨step, rfl, rfl⟩ := h
  cases hadd
  have hopen : s.queue.closed = false := hopen
  rw [step.spec.1]
  by_cases hd : x ∈ s.queue.dirty <;> simp [WorkQueue.add, WorkQueue.accepts, hd, hopen]

/-- A dirty item waits, or a worker holds it and will make it wait by marking it as done. -/
theorem Sound.dirty_cases {s : QueueInUse α} (h : s.Sound) {x : α} (hx : x ∈ s.queue.dirty) :
    x ∈ s.queue.waiting ∨ ∃ w, (w, x) ∈ s.held ∧ x ∈ (s.queue.done x).waiting := by
  by_cases hp : x ∈ s.queue.processing
  · obtain ⟨w, hw⟩ := h.mem_processing.1 hp
    exact .inr ⟨w, hw, by simp [WorkQueue.done, WorkQueue.releases, hx]⟩
  · exact .inl ((h.orderly.mem_waiting x).2 ⟨hx, hp⟩)

/-- In every run the queue is orderly, so that no item waits twice or both waits and is processed.
No item is held twice. Items are got in the order in which they started to wait, once for all the
adds that were coalesced into one. An item that was added while the queue was open was got since,
or it waits, or it is held back until a worker marks it as done. -/
theorem every_run_is_orderly {s : QueueInUse α} {es : List (QueueEvent α)}
    (h : Run Recorded start es s) :
    s.queue.Orderly
      ∧ (∀ x ∈ s.queue.waiting, x ∉ s.queue.processing)
      ∧ (s.held.map Prod.snd).Nodup
      ∧ arrivals es = deliveries es ++ s.queue.waiting
      ∧ (∀ x, es.countP (QueueEvent.takesIn x)
          = (deliveries es).count x + if x ∈ s.queue.dirty then 1 else 0)
      ∧ ∀ pre e post x, es = pre ++ e :: post → e.act = .add x → e.before.closed = false →
          x ∈ deliveries post ∨ x ∈ s.queue.waiting
            ∨ ∃ w, (w, x) ∈ s.held ∧ x ∈ (s.queue.done x).waiting := by
  have sound := Sound.run h
  refine ⟨sound.orderly, fun x => sound.orderly.not_processing, sound.held_nodup, arrivals_of_run h,
    takesIn_of_run h, ?_⟩
  intro pre e post x hes hadd hopen
  rw [hes, List.append_cons] at h
  obtain ⟨t, first, second⟩ := h.split
  obtain ⟨u, -, step⟩ := first.last
  obtain got | hd := delivered_or_dirty (Sound.run first) second (step.dirty_of_add hadd hopen)
  · exact .inl got
  · exact .inr (sound.dirty_cases hd)

/-- An item that is added while a worker holds it waits once it is marked as done. -/
theorem held_back_item_waits_again :
    ∃ (s : QueueInUse Nat) (es : List (QueueEvent Nat)), Run Recorded start es s
      ∧ s.held = [] ∧ s.queue.waiting = [7] ∧ arrivals es = [7, 7] := by
  have taken := Run.nil
    |>.snoc (Step.add (start : QueueInUse Nat) 7).record
    |>.snoc (Step.register _ 0).record
    |>.snoc (Step.get (w := 0) (x := 7) rfl).record
  have run := taken
    |>.snoc (Step.add _ 7).record
    |>.snoc (Step.done (w := 0) (x := 7) (List.mem_singleton.2 rfl)).record
  exact ⟨_, _, run, rfl, rfl, (every_run_is_orderly run).2.2.2.1⟩

end QueueInUse

end NetAttach
