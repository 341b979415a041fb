-- SUMMARY: What a delayed add changes: nothing before its time, after a shut-down, or while its item is dirty.
import NetAttach.Proofs.Timetable

/-!
# Delayed adds in use

Two queues with the same queue beneath go on alike as long as they plan the same and their
limiters answer the same. So a delayed add is not noticed before its time, and forgetting
an item is not noticed before the item is tried again. What a delayed add does at its time
is told by the items that are dirty then.
-/

namespace NetAttach

variable {α : Type} [DecidableEq α]

/-! ## Many adds at once -/

namespace WorkQueue

variable {q : WorkQueue α}

theorem mem_dirty_add (isOpen : q.closed = false) (x y : α) :
    y ∈ (q.add x).dirty ↔ y ∈ q.dirty ∨ y = x := by
  by_cases dirty : x ∈ q.dirty
  · have same : q.add x = q := by simp [add, accepts, dirty]
    rw [same]
    exact ⟨.inl, fun h => h.elim id fun e => e ▸ dirty⟩
  · simp [add, accepts, isOpen, dirty, or_comm]

theorem mem_dirty_foldl_add (isOpen : q.closed = false) (xs : List α) (y : α) :
    y ∈ (xs.foldl add q).dirty ↔ y ∈ q.dirty ∨ y ∈ xs := by
  induction xs generalizing q with
  | nil => simp
  | cons x xs ih =>
    rw [List.foldl_cons, ih ((q.closed_add x).trans isOpen), mem_dirty_add isOpen, List.mem_cons,
      or_assoc]

/-- Of many adds the first of each item counts, if the item is not dirty, and makes it wait if it is
not processed either. -/
theorem waiting_foldl_add (isOpen : q.closed = false) (xs : List α) :
    (xs.foldl add q).waiting
      = q.waiting ++ (xs.filter fun x => x ∉ q.dirty ∧ x ∉ q.processing).eraseDups := by
  induction xs using List.reverseRecOn with
  | nil => simp
  | append_singleton xs x ih =>
    have dirty := mem_dirty_foldl_add isOpen xs x
    have processing := q.processing_foldl_add xs
    have still : (xs.foldl add q).closed = false := (q.closed_foldl_add xs).trans isOpen
    rw [List.foldl_concat, List.filter_append, List.eraseDups_append, ← List.append_assoc, ← ih]
    by_cases joins : (x ∉ q.dirty ∧ x ∉ xs) ∧ x ∉ q.processing
    · obtain ⟨⟨clean, new⟩, idle⟩ := joins
      simp [add, accepts, still, processing, dirty, clean, new, idle, List.removeAll,
        List.eraseDups_cons]
    · rw [waiting_add (by simpa [enqueues, accepts, still, processing, dirty] using joins)]
      by_cases clean : x ∉ q.dirty ∧ x ∉ q.processing
      · have old : x ∈ xs := by_contra fun new => joins ⟨⟨clean.1, new⟩, clean.2⟩
        simp [clean, old, List.removeAll]
      · simp [clean]

end WorkQueue

/-- An add changes nothing exactly if the queue is shut down or the item is dirty. -/
theorem SharedQueue.add_eq_self_iff (q : SharedQueue α) (x : α) :
    q.add x = q ↔ q.queue.closed = true ∨ x ∈ q.queue.dirty := by
  constructor
  · intro same
    by_contra counts
    obtain ⟨isOpen, clean⟩ := not_or.1 counts
    have taken := (WorkQueue.mem_dirty_add (Bool.eq_false_iff.2 isOpen) x x).2 (.inr rfl)
    rw [← queue_add, same] at taken
    exact clean taken
  · rintro (closed | dirty)
    · exact add_of_closed closed x
    · simp [add, WorkQueue.add, WorkQueue.enqueues, WorkQueue.accepts, dirty]

/-! ## Limiters that answer alike -/

namespace Limiter

variable {P : LimiterCall α → Prop} {l l' : Limiter α}

/-- The limiters answer alike as long as all calls are of a kind. -/
def Agree (P : LimiterCall α → Prop) (l l' : Limiter α) : Prop :=
  ∀ calls, (∀ c ∈ calls, P c) → ∀ clock x, P (.delay clock x) →
    ((l.run calls).delay clock x).1 = ((l'.run calls).delay clock x).1

theorem Agree.refl (P : LimiterCall α → Prop) (l : Limiter α) : Agree P l l :=
  fun _ _ _ _ _ => rfl

theorem Agree.run (h : Agree P l l') (calls : List (LimiterCall α)) (kind : ∀ c ∈ calls, P c) :
    Agree P (l.run calls) (l'.run calls) := by
  intro more kinds clock x last
  rw [← run_append, ← run_append]
  exact h _ (List.forall_mem_append.2 ⟨kind, kinds⟩) clock x last

/-- A back-off counts an item alike, whether another was forgotten before or not. -/
theorem run_clear (base ceiling : Nat) (failures : Tally α) (x : α) (calls : List (LimiterCall α)) :
    ∃ f g, (exponential base ceiling (failures.clear x)).run calls = exponential base ceiling f
      ∧ (exponential base ceiling failures).run calls = exponential base ceiling g
      ∧ ∀ y, y ≠ x → f.count y = g.count y := by
  induction calls using List.reverseRecOn with
  | nil =>
    refine ⟨_, _, rfl, rfl, fun y other => ?_⟩
    rw [Tally.count_clear, if_neg other]
  | append_singleton calls call ih =>
    obtain ⟨f, g, left, right, same⟩ := ih
    rw [run_concat, run_concat, left, right]
    cases call with
    | delay clock z =>
      refine ⟨f.bump z, g.bump z, rfl, rfl, fun y other => ?_⟩
      rw [Tally.count_bump, Tally.count_bump]
      split
      · next h => rw [← h, same y other]
      · exact same y other
    | forget z =>
      refine ⟨f.clear z, g.clear z, rfl, rfl, fun y other => ?_⟩
      rw [Tally.count_clear, Tally.count_clear, same y other]

/-- Forgetting an item changes no delay before the item is tried again. -/
theorem agree_forget (l : Limiter α) (x : α) :
    Agree (fun c => ∀ clock, c ≠ .delay clock x) (l.forget x) l := by
  intro calls _ clock y last
  have other : y ≠ x := fun same => last clock (same ▸ rfl)
  have forgotten : (l.forget x).leaves = l.leaves.map (·.after (.forget x)) :=
    leaves_after l (.forget x)
  rw [delay_eq_longest, delay_eq_longest clock y (l.run calls), leaves_run, leaves_run, forgotten,
    List.map_map, List.map_map, List.map_map]
  congr 1
  refine List.map_congr_left fun leaf mem => ?_
  obtain ⟨base, ceiling, failures, rfl⟩ | ⟨tokens, rfl⟩ := leaf_cases mem
  · obtain ⟨f, g, left, right, same⟩ := run_clear base ceiling failures x calls
    show (((exponential base ceiling (failures.clear x)).run calls).delay clock y).1
      = (((exponential base ceiling failures).run calls).delay clock y).1
    rw [left, right, delay, delay, same y other]
  · rfl

end Limiter

/-! ## Queues that go on alike -/

/-- The queues have the same queue beneath and plan the same up to a time, and their limiters answer
alike to calls of a kind. -/
structure Alike (P : LimiterCall α → Prop) (horizon : Nat) (q q' : DelayedQueue α) : Prop where
  shared : q.rate.shared = q'.rate.shared
  now : q.now = q'.now
  limiter : Limiter.Agree P q.rate.limiter q'.rate.limiter
  plans : q.agenda.plans.filter (·.1 ≤ horizon) = q'.agenda.plans.filter (·.1 ≤ horizon)
  ahead : q.Ahead
  ahead' : q'.Ahead

namespace DelayedQueue

variable {q : DelayedQueue α}

theorem ahead_tick (q : DelayedQueue α) : (q.moveTo (q.now + 1)).Ahead := by
  intro p mem
  rw [now_tick]
  rw [moveTo_eq] at mem
  exact of_decide_eq_true (List.mem_filter.1 mem).2

theorem Ahead.addAfter (ahead : q.Ahead) (x : α) (delay : Nat) : (q.addAfter x delay).Ahead := by
  intro p mem
  rw [addAfter_eq] at mem ⊢
  obtain old | new := List.mem_append.1 mem
  · exact ahead p old
  · exact of_decide_eq_true (List.mem_filter.1 new).2

end DelayedQueue

namespace Alike

variable {P : LimiterCall α → Prop} {horizon : Nat} {q q' : DelayedQueue α}

/-- What is due by a time up to the horizon is the same. -/
theorem dueBy (h : Alike P horizon q q') {time : Nat} (within : time ≤ horizon) :
    q.dueBy time = q'.dueBy time := by
  have both (r : DelayedQueue α) : r.agenda.plans.filter (·.1 ≤ time)
      = (r.agenda.plans.filter (·.1 ≤ horizon)).filter (·.1 ≤ time) := by
    rw [List.filter_filter]
    refine List.filter_congr fun p _ => ?_
    rw [← Bool.decide_and, decide_eq_decide]
    omega
  rw [DelayedQueue.dueBy, DelayedQueue.dueBy, both q, both q', h.plans]

theorem ask (h : Alike P horizon q q') (calls : List (LimiterCall α)) (kind : ∀ a ∈ calls, P a) :
    Alike P horizon { q with rate := { q.rate with limiter := q.rate.limiter.run calls } }
      { q' with rate := { q'.rate with limiter := q'.rate.limiter.run calls } } :=
  { h with limiter := h.limiter.run calls kind }

theorem addAfter (h : Alike P horizon q q') (x : α) (delay : Nat) :
    Alike P horizon (q.addAfter x delay) (q'.addAfter x delay) := by
  have later : q.later? x delay = q'.later? x delay := by
    rw [DelayedQueue.later?, DelayedQueue.later?, DelayedQueue.queue, DelayedQueue.queue, h.shared,
      h.now]
  refine ⟨?_, ?_, ?_, ?_, h.ahead.addAfter x delay, h.ahead'.addAfter x delay⟩ <;>
    rw [DelayedQueue.addAfter_eq, DelayedQueue.addAfter_eq]
  · rw [later, h.now, h.shared]
  · exact h.now
  · exact h.limiter
  · rw [List.filter_append, List.filter_append, h.plans, later, h.now]

theorem tick (h : Alike P horizon q q') (within : q.now + 1 ≤ horizon) :
    Alike P horizon (q.moveTo (q.now + 1)) (q'.moveTo (q'.now + 1)) := by
  refine ⟨?_, ?_, ?_, ?_, q.ahead_tick, q'.ahead_tick⟩
  · rw [DelayedQueue.moveTo_eq, DelayedQueue.moveTo_eq, h.dueBy within, h.shared, h.now]
  · rw [DelayedQueue.now_tick, DelayedQueue.now_tick, h.now]
  · rw [DelayedQueue.moveTo_eq, DelayedQueue.moveTo_eq]
    exact h.limiter
  · rw [DelayedQueue.moveTo_eq, DelayedQueue.moveTo_eq, ← h.now, List.filter_comm, h.plans,
      List.filter_comm]

end Alike

/-- The queues give the same in some calls, and are alike afterwards. -/
structure Parallel (P : LimiterCall α → Prop) (horizon : Nat) (q q' : DelayedQueue α)
    (calls : List (DelayedCall α)) : Prop where
  same : (q.run calls).1 = (q'.run calls).1
  alike : Alike P horizon (q.run calls).2 (q'.run calls).2
  time : (q.run calls).2.now = q.now + elapsed calls

namespace Parallel

variable {P : LimiterCall α → Prop} {horizon : Nat} {q q' : DelayedQueue α}
  {calls more : List (DelayedCall α)} {call : DelayedCall α}

theorem nil (h : Alike P horizon q q') : Parallel P horizon q q' [] := ⟨rfl, h, rfl⟩

theorem single (same : (q.perform call).1 = (q'.perform call).1)
    (alike : Alike P horizon (q.perform call).2 (q'.perform call).2)
    (time : (q.perform call).2.now = q.now + call.time) : Parallel P horizon q q' [call] := by
  refine ⟨?_, alike, ?_⟩
  · simpa [DelayedQueue.run] using same
  · simpa [DelayedQueue.run, elapsed] using time

theorem append (first : Parallel P horizon q q' calls)
    (rest : Parallel P horizon (q.run calls).2 (q'.run calls).2 more) :
    Parallel P horizon q q' (calls ++ more) := by
  refine ⟨?_, ?_, ?_⟩
  · rw [DelayedQueue.run_append, DelayedQueue.run_append, first.same, rest.same]
  · rw [DelayedQueue.run_append, DelayedQueue.run_append]
    exact rest.alike
  · rw [DelayedQueue.run_append, rest.time, first.time, elapsed, elapsed, elapsed, load_append,
      Nat.add_assoc]

theorem direct (h : Alike P horizon q q') (c : QueueCall α) :
    Parallel P horizon q q' [.direct c] := by
  refine single ?_ ?_ ?_ <;> simp only [DelayedQueue.perform, DelayedQueue.direct_eq]
  · rw [h.shared, h.now]
  · exact ⟨by rw [h.shared], h.now, h.limiter, h.plans, h.ahead, h.ahead'⟩
  · rfl

theorem forget (h : Alike P horizon q q') {x : α} (kind : P (.forget x)) :
    Parallel P horizon q q' [.forget x] :=
  single rfl ⟨h.shared, h.now, h.limiter.run [.forget x] (List.forall_mem_singleton.2 kind), h.plans,
    h.ahead, h.ahead'⟩ rfl

theorem delayed (h : Alike P horizon q q') {x : α} {delay : Nat}
    (asked : call.delayed? q.rate.limiter = some (x, delay))
    (kind : ∀ a ∈ call.limiterCall?, P a) : Parallel P horizon q q' [call] := by
  have asked' : call.delayed? q'.rate.limiter = some (x, delay) := by
    cases call with
    | addAfter y d => exact asked
    | addRateLimited clock y =>
      have same := h.limiter [] (List.forall_mem_nil _) clock y (kind _ rfl)
      rw [← asked]
      exact congrArg (fun d => some (y, d)) same.symm
    | _ => cases asked
  have instant := DelayedCall.time_of_delayed asked
  have next := (h.ask call.limiterCall?.toList (by simpa using kind)).addAfter x delay
  refine single ?_ ?_ ?_ <;>
    simp only [DelayedQueue.perform_delayed asked, DelayedQueue.perform_delayed asked']
  · exact next
  · rw [instant, DelayedQueue.addAfter_eq]
    rfl

theorem tick (h : Alike P horizon q q') (within : q.now + 1 ≤ horizon) :
    Parallel P horizon q q' [.tick] := single rfl (h.tick within) DelayedQueue.now_tick

theorem wait (h : Alike P horizon q q') {n : Nat} (within : q.now + n ≤ horizon) :
    Parallel P horizon q q' [.wait n] := by
  induction n generalizing q q' with
  | zero =>
    refine single ?_ ?_ ?_ <;> simp only [h.ahead.perform_wait_zero, h.ahead'.perform_wait_zero]
    · exact h
    · rfl
  | succ n ih =>
    let due := q.dueBy (q.now + 1)
    have first : Parallel P horizon q q' (moment due) := by
      have tick := tick h (by omega)
      unfold moment
      split
      · exact tick
      · exact tick.append (direct tick.alike .settle)
    have one : elapsed (moment due) = 1 := elapsed_moment [] due
    have reached : (q.run (moment due)).2.now = q.now + 1 := one ▸ first.time
    have parts := first.append (ih first.alike (by omega))
    have same : q'.dueBy (q'.now + 1) = due := by rw [← h.now, ← h.dueBy (by omega)]
    refine single ?_ ?_ ?_ <;>
      simp only [h.ahead.perform_wait_succ, h.ahead'.perform_wait_succ, same]
    · exact parts.same
    · exact parts.alike
    · rw [parts.time, elapsed_concat, one, DelayedCall.time, DelayedCall.time, Nat.add_comm 1]

theorem of_calls (h : Alike P horizon q q') (kind : ∀ c ∈ calls, ∀ a ∈ c.limiterCall?, P a)
    (within : q.now + elapsed calls ≤ horizon) : Parallel P horizon q q' calls := by
  induction calls using List.reverseRecOn with
  | nil => exact nil h
  | append_singleton calls call ih =>
    obtain ⟨kinds, kind⟩ := List.forall_mem_append.1 kind
    rw [elapsed_concat] at within
    have first := ih kinds (by omega)
    have kind := List.forall_mem_singleton.1 kind
    refine first.append ?_
    have time := first.time
    cases call with
    | direct c => exact direct first.alike c
    | addAfter x delay => exact delayed first.alike rfl kind
    | addRateLimited clock x => exact delayed first.alike rfl kind
    | forget x => exact forget first.alike (kind _ rfl)
    | tick => exact tick first.alike (by simp only [DelayedCall.time] at within; omega)
    | wait n => exact wait first.alike (by simp only [DelayedCall.time] at within; omega)

theorem outcome (h : Parallel P horizon q q' calls) : q.outcome calls = q'.outcome calls :=
  Prod.ext h.same h.alike.shared

end Parallel

/-! ## Delayed adds -/

namespace DelayedQueue

variable {q : DelayedQueue α}

/-- A delayed add is not noticed before its time. -/
theorem outcome_of_delayed (ahead : q.Ahead) {call : DelayedCall α} {x : α} {delay : Nat}
    (asked : call.delayed? q.rate.limiter = some (x, delay)) {more : List (DelayedCall α)}
    (early : elapsed more < Agenda.milliseconds delay) :
    (q.perform call).2.outcome more
      = ({ (q.perform call).2 with agenda := q.agenda } : DelayedQueue α).outcome more := by
  rw [perform_delayed asked]
  generalize asks : q.rate.limiter.run call.limiterCall?.toList = limiter
  let r : DelayedQueue α := { q with rate := { q.rate with limiter } }
  have ahead : r.Ahead := ahead
  -- the calls end before the horizon, and the new plan lies behind it
  have far : ((r.later? x delay).toList.filter (r.now < ·.1)).filter (·.1 ≤ r.now + elapsed more)
      = [] := by
    unfold later?
    split
    · rfl
    · refine List.filter_eq_nil_iff.2 fun p mem => ?_
      obtain rfl := List.mem_singleton.1 (List.mem_filter.1 mem).1
      simpa using early
  have alike : Alike (fun _ => True) (r.now + elapsed more) (r.addAfter x delay)
      { r.addAfter x delay with agenda := q.agenda } := by
    refine ⟨rfl, ?_, .refl _ _, ?_, ahead.addAfter x delay, ahead⟩ <;> rw [addAfter_eq]
    · rfl
    · rw [List.filter_append, far]
      exact List.append_nil _
  have within : (r.addAfter x delay).now + elapsed more ≤ r.now + elapsed more := by
    rw [addAfter_eq]
    exact Nat.le_refl _
  exact (Parallel.of_calls alike (fun _ _ _ _ => trivial) within).outcome

/-- Forgetting an item is not noticed before the item is tried again. -/
theorem outcome_forget (ahead : q.Ahead) {x : α} {more : List (DelayedCall α)}
    (untried : ∀ clock, .addRateLimited clock x ∉ more) :
    (q.forget x).outcome more = q.outcome more := by
  have alike : Alike (fun c => ∀ clock, c ≠ .delay clock x) (q.now + elapsed more) (q.forget x) q :=
    ⟨rfl, rfl, Limiter.agree_forget _ x, rfl, ahead, ahead⟩
  -- only a rate-limited add of the item would be of another kind
  refine (Parallel.of_calls alike (fun c mem a asks clock same => ?_) (Nat.le_refl _)).outcome
  cases c with
  | addRateLimited k y =>
    obtain rfl := Option.some.inj asks
    obtain ⟨rfl, rfl⟩ := LimiterCall.delay.inj same
    exact untried k mem
  | forget y =>
    obtain rfl := Option.some.inj asks
    cases same
  | _ => cases asks

theorem add_eq_self_iff {x : α} : q.add x = q ↔ q.queue.closed = true ∨ x ∈ q.queue.dirty := by
  rw [queue, ← SharedQueue.add_eq_self_iff]
  constructor
  · intro same
    exact congrArg (fun r : DelayedQueue α => r.rate.shared) same
  · intro same
    rw [add, RateQueue.add, same]

/-- A queue with delayed adds gives in every run what the queue beneath it gives by the timetable of
the calls, at the same times, and leaves it in the same state: each direct call takes place at once,
and each delayed add of an open queue when its delay is over, which is rounded up to milliseconds,
in the order of the calls if several are due at once. So a delayed add is not noticed before its
time, no add changes anything after a shut-down, and forgetting an item changes nothing but the
delays of its next tries. An add of an open queue is lost in an earlier one exactly if the item is
still dirty, that is, if it waits or is held back until it is marked as done; and of the adds that
are due at once, those of one item come to one. -/
theorem runs_by_the_timetable (limiter : Limiter α) (calls : List (DelayedCall α)) :
    let q := ((ofLimiter limiter).run calls).2
    (ofLimiter limiter).outcome calls = SharedQueue.empty.run (timetable limiter [] calls)
      ∧ (∀ call x delay more, call.delayed? q.rate.limiter = some (x, delay) →
          elapsed more < Agenda.milliseconds delay →
          (q.perform call).2.outcome more
            = ({ (q.perform call).2 with agenda := q.agenda } : DelayedQueue α).outcome more)
      ∧ (.direct .shutDown ∈ calls → ∀ more, q.outcome more
          = q.rate.shared.run ((timetable limiter calls more).filter fun entry => !entry.2.adds))
      ∧ (∀ x, q.add x = q ↔ .direct .shutDown ∈ calls ∨ x ∈ q.queue.dirty)
      ∧ (.direct .shutDown ∉ calls →
          let due := dueAt (elapsed calls + 1) (delayedAdds limiter calls)
          (∀ x, x ∈ (q.perform .tick).2.queue.dirty ↔ x ∈ q.queue.dirty ∨ x ∈ due)
            ∧ (q.perform .tick).2.queue.waiting = q.queue.waiting
              ++ (due.filter fun x => x ∉ q.queue.dirty ∧ x ∉ q.queue.processing).eraseDups)
      ∧ ∀ x more, (∀ clock, .addRateLimited clock x ∉ more) →
          (q.perform (.forget x)).2.outcome more = q.outcome more := by
  intro q
  have together : Together limiter [] (ofLimiter limiter) calls :=
    Together.of_calls (Follows.start limiter) calls
  have follows : Follows limiter calls q := together.follows
  refine ⟨together.same.symm, fun call x delay more asked early =>
    outcome_of_delayed follows.ahead asked early, fun shut more => ?_, fun x => ?_, fun isOpen => ?_,
    fun x more untried => outcome_forget follows.ahead untried⟩
  · rw [← (Together.of_calls follows more).same]
    exact SharedQueue.run_of_closed (follows.closed_eq.trans (decide_eq_true shut)) _
  · have closed : q.queue.closed = true ↔ .direct .shutDown ∈ calls := by
      rw [follows.closed_eq, decide_eq_true_iff]
    rw [add_eq_self_iff, closed]
  · have isOpen : q.queue.closed = false := follows.closed_eq.trans (decide_eq_false isOpen)
    have tick : (q.perform .tick).2.queue
        = (dueAt (elapsed calls + 1) (delayedAdds limiter calls)).foldl WorkQueue.add q.queue := by
      rw [← follows.dueBy_succ, perform, moveTo_eq]
      exact SharedQueue.queue_foldl_add _ _
    rw [tick]
    exact ⟨WorkQueue.mem_dirty_foldl_add isOpen _, WorkQueue.waiting_foldl_add isOpen _⟩

/-- A getter waits, and two delayed adds of one item are due after two milliseconds. The item is
got once, although it was forgotten meanwhile. -/
theorem adds_due_at_once_make_one_delivery :
    let calls : List (DelayedCall Nat) := [.direct (.seek 0), .addAfter 7 (2 * millisecond),
      .addRateLimited 0 8, .addAfter 7 1500000, .forget 7, .wait 2]
    timetable .standard [] calls = [(0, .seek 0), (2, .add 7), (2, .add 7), (2, .settle)]
      ∧ ((ofLimiter .standard).outcome calls).1 = [(0, .item 7, 2)] := by
  intro calls
  have told : timetable .standard [] calls
      = [(0, .seek 0), (2, .add 7), (2, .add 7), (2, .settle)] := by decide
  refine ⟨told, ?_⟩
  rw [(runs_by_the_timetable .standard calls).1, told]
  decide

end DelayedQueue

end NetAttach
