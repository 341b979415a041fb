-- SUMMARY: The calls of a queue with delayed adds, and what they do to the queue beneath and to the plans.
import NetAttach.Queue.Delayed
import NetAttach.Proofs.Limiters
import NetAttach.Proofs.Signals

/-!
# Calls of queues with delays

A queue with delayed adds is a queue without them, a limiter and an agenda. Every call
comes down to calls of these three: a delayed add is made at once or planned, a
millisecond makes the adds that are due, and a wait is made up of its milliseconds.
-/

namespace NetAttach

variable {α : Type}

/-! ## Calls -/

/-- Calls one after the other, with all that they give. -/
def performAll {σ κ δ : Type} (perform : σ → κ → List δ × σ) (s : σ) : List κ → List δ × σ
  | [] => ([], s)
  | call :: calls =>
    let first := perform s call
    let rest := performAll perform first.2 calls
    (first.1 ++ rest.1, rest.2)

section

variable {σ κ δ : Type} {perform : σ → κ → List δ × σ} {s : σ}

@[simp] theorem performAll_nil : performAll perform s [] = ([], s) := rfl

@[simp] theorem performAll_cons (call : κ) (calls : List κ) :
    performAll perform s (call :: calls)
      = ((perform s call).1 ++ (performAll perform (perform s call).2 calls).1,
          (performAll perform (perform s call).2 calls).2) := rfl

theorem performAll_append (calls more : List κ) :
    performAll perform s (calls ++ more)
      = ((performAll perform s calls).1 ++ (performAll perform (performAll perform s calls).2 more).1,
          (performAll perform (performAll perform s calls).2 more).2) := by
  induction calls generalizing s with
  | nil => rfl
  | cons call calls ih => simp [ih]

end

/-- A call of a queue without delays. -/
inductive QueueCall (α : Type) where
  | add (x : α)
  | done (x : α)
  | shutDown
  /-- A getter tries once. -/
  | tryOnce (getter : Nat)
  /-- A getter starts to wait. -/
  | seek (getter : Nat)
  /-- The woken getters go on. -/
  | settle
deriving DecidableEq

/-- The call adds an item. -/
def QueueCall.adds : QueueCall α → Bool
  | .add _ => true
  | _ => false

/-- A call of a queue with delays. -/
inductive DelayedCall (α : Type) where
  | direct (call : QueueCall α)
  | addAfter (x : α) (delay : Nat)
  /-- The clock is the one that the buckets of the limiter read. -/
  | addRateLimited (clock : Nat) (x : α)
  | forget (x : α)
  /-- A millisecond passes, and the woken getters have yet to go on. -/
  | tick
  /-- Milliseconds pass, and the getters that are woken by an add go on at once. -/
  | wait (milliseconds : Nat)
deriving DecidableEq

/-- The milliseconds that pass in a call. -/
def DelayedCall.time : DelayedCall α → Nat
  | .tick => 1
  | .wait n => n
  | _ => 0

/-- What the limiter is called for. -/
def DelayedCall.limiterCall? : DelayedCall α → Option (LimiterCall α)
  | .addRateLimited clock x => some (.delay clock x)
  | .forget x => some (.forget x)
  | _ => none

/-- A millisecond at whose end some items are due. The getters that are woken by the adds go on. -/
def moment (due : List α) : List (DelayedCall α) :=
  .tick :: if due = [] then [] else [.direct .settle]

/-- Who got what, and when. -/
def stamp (time : Nat) (found : List (Nat × Delivery α)) : List (Nat × Delivery α × Nat) :=
  found.map fun f => (f.1, f.2, time)

/-- The items that are added at a time, in the order of the adds. -/
def dueAt (time : Nat) (adds : List (Nat × α)) : List α := (adds.filter (·.1 = time)).map (·.2)

@[simp] theorem milliseconds_eq_zero {delay : Nat} : Agenda.milliseconds delay = 0 ↔ delay = 0 := by
  unfold Agenda.milliseconds
  omega

/-! ## What is planned -/

namespace DelayedQueue

section

variable (q : DelayedQueue α)

/-- The items whose adds are due at a time. -/
def dueBy (time : Nat) : List α := (q.agenda.plans.filter (·.1 ≤ time)).map (·.2)

/-- All planned adds are still to come. -/
def Ahead : Prop := ∀ p ∈ q.agenda.plans, q.now < p.1

end

variable {q : DelayedQueue α}

theorem dueBy_eq_nil {time : Nat} : q.dueBy time = [] ↔ ∀ p ∈ q.agenda.plans, time < p.1 := by
  rw [dueBy, List.map_eq_nil_iff, List.filter_eq_nil_iff]
  simp

/-- Nothing is due before the next planned add. -/
theorem dueBy_eq_nil_iff_next {time : Nat} :
    q.dueBy time = [] ↔ ∀ due, q.agenda.next? = some due → time < due := by
  rw [dueBy_eq_nil]
  constructor
  · intro later due next
    obtain ⟨p, mem, rfl⟩ := List.mem_map.1 (List.min?_mem next)
    exact later p mem
  · intro later p mem
    have times : p.1 ∈ q.agenda.plans.map (·.1) := List.mem_map_of_mem mem
    obtain ⟨due, next⟩ := Option.isSome_iff_exists.1 (List.isSome_min?_of_mem times)
    exact Nat.lt_of_lt_of_le (later due next) ((List.min?_eq_some_iff.1 next).2 _ times)

end DelayedQueue

variable [DecidableEq α]

/-- The item of a delayed add, and its delay in nanoseconds. -/
def DelayedCall.delayed? (limiter : Limiter α) : DelayedCall α → Option (α × Nat)
  | .addAfter x delay => some (x, delay)
  | .addRateLimited clock x => some (x, (limiter.delay clock x).1)
  | _ => none

/-- A delayed add takes no time itself. -/
theorem DelayedCall.time_of_delayed {limiter : Limiter α} {call : DelayedCall α} {d : α × Nat}
    (delayed : call.delayed? limiter = some d) : call.time = 0 := by
  cases call with
  | addAfter x delay => rfl
  | addRateLimited clock x => rfl
  | _ => cases delayed

namespace SharedQueue

def perform (q : SharedQueue α) : QueueCall α → List (Nat × Delivery α) × SharedQueue α
  | .add x => ([], q.add x)
  | .done x => ([], q.done x)
  | .shutDown => ([], q.shutDown)
  | .tryOnce i => ((q.tryOnce i).1.toList.map (i, ·), (q.tryOnce i).2)
  | .seek i => ((q.seek i).1.toList.map (i, ·), (q.seek i).2)
  | .settle => q.settle

/-- Calls with their times, one after the other. -/
def run (q : SharedQueue α) (calls : List (Nat × QueueCall α)) :
    List (Nat × Delivery α × Nat) × SharedQueue α :=
  performAll (fun q call => (stamp call.1 (q.perform call.2).1, (q.perform call.2).2)) q calls

end SharedQueue

namespace DelayedQueue

def direct (q : DelayedQueue α) : QueueCall α → List (Nat × Delivery α) × DelayedQueue α
  | .add x => ([], q.add x)
  | .done x => ([], q.done x)
  | .shutDown => ([], q.shutDown)
  | .tryOnce i => ((q.tryOnce i).1.toList.map (i, ·), (q.tryOnce i).2)
  | .seek i => ((q.seek i).1.toList.map (i, ·), (q.seek i).2)
  | .settle => q.settle

def perform (q : DelayedQueue α) : DelayedCall α → List (Nat × Delivery α × Nat) × DelayedQueue α
  | .direct call => (stamp q.now (q.direct call).1, (q.direct call).2)
  | .addAfter x delay => ([], q.addAfter x delay)
  | .addRateLimited clock x => ([], q.addRateLimited clock x)
  | .forget x => ([], q.forget x)
  | .tick => ([], q.moveTo (q.now + 1))
  | .wait n => q.advanceTo (q.now + n)

def run (q : DelayedQueue α) (calls : List (DelayedCall α)) :
    List (Nat × Delivery α × Nat) × DelayedQueue α := performAll perform q calls

/-- What is got in some calls, and the queue beneath after them. -/
def outcome (q : DelayedQueue α) (calls : List (DelayedCall α)) :
    List (Nat × Delivery α × Nat) × SharedQueue α := ((q.run calls).1, (q.run calls).2.rate.shared)

end DelayedQueue

/-! ## The queue beneath -/

namespace WorkQueue

variable (q : WorkQueue α) (xs : List α)

theorem closed_foldl_add : (xs.foldl add q).closed = q.closed :=
  List.foldlRecOn (motive := fun (r : WorkQueue α) => r.closed = q.closed) _ _ rfl
    fun r same x _ => (r.closed_add x).trans same

theorem processing_foldl_add : (xs.foldl add q).processing = q.processing :=
  List.foldlRecOn (motive := fun (r : WorkQueue α) => r.processing = q.processing) _ _ rfl
    fun r same x _ => (r.processing_add x).trans same

end WorkQueue

namespace SharedQueue

variable (q : SharedQueue α)

theorem run_append (calls more : List (Nat × QueueCall α)) :
    q.run (calls ++ more) = ((q.run calls).1 ++ ((q.run calls).2.run more).1,
      ((q.run calls).2.run more).2) := performAll_append calls more

/-- Adds give nothing. -/
theorem run_adds (time : Nat) (xs : List α) :
    q.run (xs.map fun x => (time, .add x)) = ([], xs.foldl add q) := by
  induction xs generalizing q with
  | nil => rfl
  | cons x xs ih => simpa [run, perform, stamp] using ih (q.add x)

theorem queue_foldl_add (xs : List α) :
    (xs.foldl add q).queue = xs.foldl WorkQueue.add q.queue := by
  induction xs generalizing q with
  | nil => rfl
  | cons x xs ih => rw [List.foldl_cons, ih, queue_add, List.foldl_cons]

theorem closed_foldl_add (xs : List α) : (xs.foldl add q).queue.closed = q.queue.closed := by
  rw [queue_foldl_add, WorkQueue.closed_foldl_add]

theorem closed_check (i : Nat) : (q.check i).2.queue.closed = q.queue.closed := by
  obtain ⟨x, -, took⟩ | ⟨-, -, same⟩ := q.queue_check i
  · exact (WorkQueue.take?_eq_some took).2.2.2
  · rw [same]

theorem closed_seek (i : Nat) : (q.seek i).2.queue.closed = q.queue.closed := by
  unfold seek
  dsimp only
  split <;> simp [closed_check]

theorem closed_settle : q.settle.2.queue.closed = q.queue.closed := by
  unfold settle
  refine List.foldlRecOn (motive := fun (r : List (Nat × Delivery α) × SharedQueue α) =>
    r.2.queue.closed = q.queue.closed) _ _ rfl ?_
  rintro ⟨found, r⟩ same g -
  have kept := r.closed_seek g.id
  rcases h : r.seek g.id with ⟨_ | d, next⟩ <;> simp only [h] at kept ⊢ <;> exact kept.trans same

/-- A queue is closed by shutting it down and by nothing else. -/
theorem closed_perform (call : QueueCall α) :
    (q.perform call).2.queue.closed = (call = .shutDown || q.queue.closed) := by
  cases call with
  | add x => simp [perform]
  | done x => simp [perform, WorkQueue.done]
  | shutDown => simp [perform, WorkQueue.shutDown]
  | tryOnce i => simpa [perform, tryOnce] using q.closed_seek i
  | seek i => simpa [perform] using q.closed_seek i
  | settle => simpa [perform] using q.closed_settle

theorem add_of_closed {q : SharedQueue α} (closed : q.queue.closed = true) (x : α) : q.add x = q := by
  simp [add, WorkQueue.add, WorkQueue.enqueues, WorkQueue.accepts, closed]

/-- The adds of a queue that is shut down can be left out. -/
theorem run_of_closed {q : SharedQueue α} (closed : q.queue.closed = true)
    (calls : List (Nat × QueueCall α)) : q.run calls = q.run (calls.filter fun c => !c.2.adds) := by
  induction calls generalizing q with
  | nil => rfl
  | cons call calls ih =>
    obtain ⟨time, call⟩ := call
    have still : (q.perform call).2.queue.closed = true := by rw [closed_perform, closed, Bool.or_true]
    have rest := ih still
    unfold run at rest ⊢
    cases call with
    | add x =>
      have same : q.add x = q := add_of_closed closed x
      simpa [perform, QueueCall.adds, stamp, same] using rest
    | _ => simp [QueueCall.adds, rest]

end SharedQueue

/-! ## The clock -/

namespace DelayedQueue

variable (q : DelayedQueue α)

theorem run_append (calls more : List (DelayedCall α)) :
    q.run (calls ++ more) = ((q.run calls).1 ++ ((q.run calls).2.run more).1,
      ((q.run calls).2.run more).2) := performAll_append calls more

theorem direct_eq (call : QueueCall α) :
    q.direct call = ((q.rate.shared.perform call).1,
      { q with rate := { q.rate with shared := (q.rate.shared.perform call).2 } }) := by
  cases call <;> rfl

theorem foldl_add (xs : List α) (r : RateQueue α) :
    xs.foldl RateQueue.add r = { r with shared := xs.foldl SharedQueue.add r.shared } := by
  induction xs generalizing r with
  | nil => rfl
  | cons x xs ih => exact ih (r.add x)

theorem moveTo_eq (time : Nat) :
    q.moveTo time =
      { rate := { q.rate with shared := (q.dueBy time).foldl SharedQueue.add q.rate.shared }
        agenda := ⟨max q.now time, q.agenda.plans.filter (time < ·.1)⟩ } := by
  simp [moveTo, Agenda.moveTo, foldl_add, dueBy, now, List.partition_eq_filter_filter,
    Function.comp_def, ← decide_not]

variable {q}

/-- The clock can move to a time at which nothing is due without anything else. -/
theorem moveTo_of_quiet {time : Nat} (quiet : q.dueBy time = []) (later : q.now ≤ time) :
    q.moveTo time = { q with agenda := { q.agenda with now := time } } := by
  have kept : q.agenda.plans.filter (time < ·.1) = q.agenda.plans :=
    List.filter_eq_self.2 fun p mem => decide_eq_true (dueBy_eq_nil.1 quiet p mem)
  rw [moveTo_eq, quiet, kept, Nat.max_eq_right later]
  rfl

theorem advanceTo_of_quiet {time : Nat} (quiet : q.dueBy time = []) :
    q.advanceTo time = ([], q.moveTo time) := by
  unfold advanceTo
  split
  · rfl
  · next due next => rw [if_neg (Nat.not_le.2 (dueBy_eq_nil_iff_next.1 quiet due next))]

theorem advanceTo_of_next {due time : Nat} (next : q.agenda.next? = some due) (reached : due ≤ time) :
    q.advanceTo time
      = (stamp due (q.moveTo due).settle.1 ++ ((q.moveTo due).settle.2.advanceTo time).1,
          ((q.moveTo due).settle.2.advanceTo time).2) := by
  rw [advanceTo]
  split
  · next none => rw [none] at next; cases next
  · next due' next' =>
    obtain rfl := Option.some.inj (next'.symm.trans next)
    rw [if_pos reached]
    rfl

/-- Time in which nothing is due can pass before. -/
theorem advanceTo_moveTo {k time : Nat} (quiet : q.dueBy k = []) (before : q.now ≤ k)
    (later : k ≤ time) : (q.moveTo k).advanceTo time = q.advanceTo time := by
  have forward {t : Nat} (reached : k ≤ t) : (q.moveTo k).moveTo t = q.moveTo t := by
    rw [moveTo_of_quiet quiet before, moveTo_eq, moveTo_eq]
    simp only [now] at before ⊢
    rw [Nat.max_eq_right reached, Nat.max_eq_right (Nat.le_trans before reached)]
    rfl
  have same : (q.moveTo k).agenda.plans = q.agenda.plans := by rw [moveTo_of_quiet quiet before]
  by_cases none : q.dueBy time = []
  · have none' : (q.moveTo k).dueBy time = [] := by rw [dueBy, same]; exact none
    rw [advanceTo_of_quiet none, advanceTo_of_quiet none', forward later]
  · rw [dueBy_eq_nil_iff_next] at none
    obtain ⟨due, next, reached⟩ : ∃ due, q.agenda.next? = some due ∧ due ≤ time := by
      simpa using none
    have next' : (q.moveTo k).agenda.next? = some due := by rw [Agenda.next?, same]; exact next
    have after : k ≤ due := Nat.le_of_lt (dueBy_eq_nil_iff_next.1 quiet due next)
    rw [advanceTo_of_next next reached, advanceTo_of_next next' reached, forward after]

theorem now_tick : (q.moveTo (q.now + 1)).now = q.now + 1 := by
  rw [moveTo_eq]
  exact Nat.max_eq_right (Nat.le_succ _)

theorem Ahead.perform_wait_zero (ahead : q.Ahead) : q.perform (.wait 0) = ([], q) := by
  have quiet : q.dueBy q.now = [] := dueBy_eq_nil.2 ahead
  show q.advanceTo q.now = _
  rw [advanceTo_of_quiet quiet, moveTo_of_quiet quiet (Nat.le_refl _)]
  rfl

/-- A wait is made up of its milliseconds. -/
theorem Ahead.perform_wait_succ (ahead : q.Ahead) (n : Nat) :
    q.perform (.wait (n + 1)) = q.run (moment (q.dueBy (q.now + 1)) ++ [.wait n]) := by
  have target : q.now + (n + 1) = q.now + 1 + n := by omega
  by_cases quiet : q.dueBy (q.now + 1) = []
  · simp only [moment, quiet, if_pos, run, perform, List.cons_append, List.nil_append, performAll_cons,
      performAll_nil, List.append_nil, now_tick, target]
    rw [advanceTo_moveTo quiet (Nat.le_succ _) (by omega)]
  · have next : q.agenda.next? = some (q.now + 1) := by
      obtain ⟨due, next, reached⟩ : ∃ due, q.agenda.next? = some due ∧ due ≤ q.now + 1 := by
        simpa [dueBy_eq_nil_iff_next] using quiet
      have after : q.now < due := dueBy_eq_nil_iff_next.1 (dueBy_eq_nil.2 ahead) due next
      rw [next, Nat.le_antisymm reached after]
    have settled : (q.moveTo (q.now + 1)).settle.2.now = q.now + 1 := now_tick
    simp only [moment, quiet, if_neg, run, perform, direct, List.cons_append, List.nil_append,
      performAll_cons, performAll_nil, List.append_nil, now_tick, settled, target, not_false_iff]
    exact advanceTo_of_next next (by omega)

/-! ## Delayed adds -/

/-- The add that is made after a delay, with its time. -/
def later? (q : DelayedQueue α) (x : α) (delay : Nat) : Option (Nat × α) :=
  if q.queue.closed then none else some (q.now + Agenda.milliseconds delay, x)

/-- The add is made at once if its time has come, and is planned otherwise. -/
theorem addAfter_eq (q : DelayedQueue α) (x : α) (delay : Nat) :
    q.addAfter x delay =
      { rate := { q.rate with
          shared := (dueAt q.now (q.later? x delay).toList).foldl SharedQueue.add q.rate.shared }
        agenda := ⟨q.now, q.agenda.plans ++ (q.later? x delay).toList.filter (q.now < ·.1)⟩ } := by
  by_cases closed : q.rate.shared.queue.closed = true
  · simp [addAfter, RateQueue.addAfter, later?, queue, closed, dueAt, now]
  · by_cases zero : delay = 0
    · simp [addAfter, RateQueue.addAfter, later?, queue, closed, dueAt, now, zero, RateQueue.add]
    · have positive : 0 < Agenda.milliseconds delay :=
        Nat.pos_of_ne_zero (mt milliseconds_eq_zero.1 zero)
      simp [addAfter, RateQueue.addAfter, later?, queue, closed, dueAt, now, zero, Agenda.plan,
        positive]

/-- A delayed add asks the limiter, if it has to, and comes down to an add after that delay. -/
theorem perform_delayed {call : DelayedCall α} {x : α} {delay : Nat}
    (delayed : call.delayed? q.rate.limiter = some (x, delay)) :
    q.perform call = ([], ({ q with rate := { q.rate with
      limiter := q.rate.limiter.run call.limiterCall?.toList } } : DelayedQueue α).addAfter x delay) := by
  cases call with
  | addAfter y d =>
    obtain ⟨rfl, rfl⟩ := Prod.mk.inj (Option.some.inj delayed)
    rfl
  | addRateLimited clock y =>
    obtain ⟨rfl, rfl⟩ := Prod.mk.inj (Option.some.inj delayed)
    rfl
  | _ => cases delayed

end DelayedQueue

end NetAttach
