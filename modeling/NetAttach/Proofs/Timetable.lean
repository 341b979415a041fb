-- SUMMARY: A queue with delayed adds gives what the queue beneath it gives when each add is made in time.
import NetAttach.Proofs.DelayedCalls

/-!
# Timetables

The calls of a queue with delayed adds say all that happens to the queue beneath it:
every direct call at its time, and for every delayed add of an open queue one add when
the delay is over. This timetable is told from the calls alone, without the agenda, and
the two queues are followed through the same calls.
-/

namespace NetAttach

variable {α : Type}

/-! ## What the calls say -/

/-- What is found in each call of a list, given the calls before it. -/
def withPast {κ δ : Type} (f : List κ → κ → List δ) (past : List κ) : List κ → List δ
  | [] => []
  | call :: calls => f past call ++ withPast f (past ++ [call]) calls

theorem withPast_append {κ δ : Type} (f : List κ → κ → List δ) (past calls more : List κ) :
    withPast f past (calls ++ more) = withPast f past calls ++ withPast f (past ++ calls) more := by
  induction calls generalizing past with
  | nil => simp [withPast]
  | cons call calls ih => simp [withPast, ih]

/-- The milliseconds that passed. -/
def elapsed (calls : List (DelayedCall α)) : Nat := load DelayedCall.time calls

theorem elapsed_concat (past : List (DelayedCall α)) (call : DelayedCall α) :
    elapsed (past ++ [call]) = elapsed past + call.time := by simp [elapsed]

/-- The calls that the limiter got. -/
def limiterCalls (calls : List (DelayedCall α)) : List (LimiterCall α) :=
  calls.filterMap DelayedCall.limiterCall?

theorem limiterCalls_concat (past : List (DelayedCall α)) (call : DelayedCall α) :
    limiterCalls (past ++ [call]) = limiterCalls past ++ call.limiterCall?.toList := by
  cases h : call.limiterCall? <;> simp [limiterCalls, h]

theorem elapsed_moment (past : List (DelayedCall α)) (due : List α) :
    elapsed (past ++ moment due) = elapsed past + 1 := by
  unfold moment
  split <;> simp [elapsed, DelayedCall.time]

theorem limiterCalls_moment (past : List (DelayedCall α)) (due : List α) :
    limiterCalls (past ++ moment due) = limiterCalls past := by
  unfold moment
  split <;> simp [limiterCalls, DelayedCall.limiterCall?]

theorem mem_moment_shutDown (past : List (DelayedCall α)) (due : List α) :
    .direct .shutDown ∈ past ++ moment due ↔ .direct .shutDown ∈ past := by
  unfold moment
  split <;> simp

variable [DecidableEq α]

/-- When and what is to be added because of a call, given the calls before it. Without a delay that
is at once, and after the queue was shut down nothing is added. -/
def delayedAdd? (limiter : Limiter α) (past : List (DelayedCall α)) (call : DelayedCall α) :
    Option (Nat × α) :=
  if .direct .shutDown ∈ past then none
  else (call.delayed? (limiter.run (limiterCalls past))).map fun (x, delay) =>
    (elapsed past + Agenda.milliseconds delay, x)

theorem delayedAdd?_eq_none {limiter : Limiter α} {past : List (DelayedCall α)} {call : DelayedCall α}
    (prompt : ∀ l : Limiter α, call.delayed? l = none) : delayedAdd? limiter past call = none := by
  simp [delayedAdd?, prompt]

/-- All delayed adds that some calls bring about, in the order of these calls. -/
def delayedAdds (limiter : Limiter α) (calls : List (DelayedCall α)) : List (Nat × α) :=
  withPast (fun past call => (delayedAdd? limiter past call).toList) [] calls

/-- The adds for a time. -/
def addsAt (time : Nat) (adds : List (Nat × α)) : List (Nat × QueueCall α) :=
  (dueAt time adds).map fun x => (time, .add x)

/-- What happens to the queue beneath because of a call, given the calls before it. In a wait the
getters go on after the adds of each millisecond. -/
def entries (limiter : Limiter α) (past : List (DelayedCall α)) :
    DelayedCall α → List (Nat × QueueCall α)
  | .direct call => [(elapsed past, call)]
  | .tick => addsAt (elapsed past + 1) (delayedAdds limiter past)
  | .wait n => (List.range n).flatMap fun k =>
    let time := elapsed past + (k + 1)
    let adds := addsAt time (delayedAdds limiter past)
    if adds = [] then [] else adds ++ [(time, .settle)]
  | call => addsAt (elapsed past) (delayedAdd? limiter past call).toList

theorem entries_of_delayed {limiter l : Limiter α} {past : List (DelayedCall α)} {call : DelayedCall α}
    {d : α × Nat} (delayed : call.delayed? l = some d) :
    entries limiter past call = addsAt (elapsed past) (delayedAdd? limiter past call).toList := by
  cases call with
  | addAfter x delay => rfl
  | addRateLimited clock x => rfl
  | _ => cases delayed

/-- What happens to the queue beneath because of some calls, given the calls before them. -/
def timetable (limiter : Limiter α) (past calls : List (DelayedCall α)) : List (Nat × QueueCall α) :=
  withPast (entries limiter) past calls

theorem delayedAdds_concat (limiter : Limiter α) (past : List (DelayedCall α)) (call : DelayedCall α) :
    delayedAdds limiter (past ++ [call])
      = delayedAdds limiter past ++ (delayedAdd? limiter past call).toList := by
  simp [delayedAdds, withPast_append, withPast]

/-- Calls without a delayed add among them. -/
theorem delayedAdds_append (limiter : Limiter α) (past : List (DelayedCall α))
    {calls : List (DelayedCall α)} (prompt : ∀ c ∈ calls, ∀ l : Limiter α, c.delayed? l = none) :
    delayedAdds limiter (past ++ calls) = delayedAdds limiter past := by
  induction calls using List.reverseRecOn with
  | nil => rw [List.append_nil]
  | append_singleton calls call ih =>
    simp only [List.forall_mem_append, List.forall_mem_singleton] at prompt
    rw [← List.append_assoc, delayedAdds_concat, ih prompt.1, delayedAdd?_eq_none prompt.2]
    exact List.append_nil _

section

variable (limiter : Limiter α) (past : List (DelayedCall α))

theorem delayedAdds_moment (due : List α) :
    delayedAdds limiter (past ++ moment due) = delayedAdds limiter past := by
  refine delayedAdds_append limiter past ?_
  unfold moment
  split <;> simp [DelayedCall.delayed?]

theorem timetable_moment :
    timetable limiter past (moment (dueAt (elapsed past + 1) (delayedAdds limiter past)))
      = if addsAt (elapsed past + 1) (delayedAdds limiter past) = [] then []
        else addsAt (elapsed past + 1) (delayedAdds limiter past) ++ [(elapsed past + 1, .settle)] := by
  have quiet : addsAt (elapsed past + 1) (delayedAdds limiter past) = []
      ↔ dueAt (elapsed past + 1) (delayedAdds limiter past) = [] := List.map_eq_nil_iff
  unfold moment
  simp only [quiet]
  split
  · next none => simp [timetable, withPast, entries, addsAt, none]
  · simp [timetable, withPast, entries, elapsed_concat, DelayedCall.time]

/-- A wait is made up of its milliseconds. -/
theorem entries_wait_succ (n : Nat) :
    entries limiter past (.wait (n + 1)) = timetable limiter past
      (moment (dueAt (elapsed past + 1) (delayedAdds limiter past)) ++ [.wait n]) := by
  rw [timetable, withPast_append, ← timetable, timetable_moment]
  simp only [withPast, entries, List.range_succ_eq_map, List.flatMap_cons, List.flatMap_map,
    Nat.zero_add, List.append_nil, elapsed_moment, delayedAdds_moment, Nat.succ_eq_add_one,
    Nat.add_assoc, Nat.add_comm 1]

end

/-! ## Following the calls -/

/-- The queue is where the calls have brought it: its clock, its limiter and its state are told from
them, and the delayed adds that are still to come are planned. -/
structure Follows (limiter : Limiter α) (past : List (DelayedCall α)) (q : DelayedQueue α) : Prop where
  now_eq : q.now = elapsed past
  limiter_eq : q.rate.limiter = limiter.run (limiterCalls past)
  plans_eq : q.agenda.plans = (delayedAdds limiter past).filter (elapsed past < ·.1)
  closed_eq : q.queue.closed = decide (.direct .shutDown ∈ past)

namespace Follows

variable {limiter : Limiter α} {past : List (DelayedCall α)} {q : DelayedQueue α}

theorem start (limiter : Limiter α) : Follows limiter [] (.ofLimiter limiter) := ⟨rfl, rfl, rfl, rfl⟩

/-- Only the time, the calls of the limiter, the delayed adds and the shut-down are told. -/
theorem congr {past' : List (DelayedCall α)} (h : Follows limiter past q)
    (time : elapsed past' = elapsed past) (memory : limiterCalls past' = limiterCalls past)
    (adds : delayedAdds limiter past' = delayedAdds limiter past)
    (shut : .direct .shutDown ∈ past' ↔ .direct .shutDown ∈ past) : Follows limiter past' q := by
  refine ⟨time ▸ h.now_eq, memory ▸ h.limiter_eq, ?_, ?_⟩
  · rw [adds, time, h.plans_eq]
  · rw [h.closed_eq, decide_eq_decide, shut]

theorem ahead (h : Follows limiter past q) : q.Ahead := by
  intro p mem
  rw [h.plans_eq, List.mem_filter] at mem
  rw [h.now_eq]
  exact of_decide_eq_true mem.2

/-- Of the adds that are to come, those of the next millisecond are due first. -/
theorem dueBy_succ (h : Follows limiter past q) :
    q.dueBy (q.now + 1) = dueAt (elapsed past + 1) (delayedAdds limiter past) := by
  rw [DelayedQueue.dueBy, dueAt, h.plans_eq, h.now_eq, List.filter_filter]
  congr 1
  refine List.filter_congr fun p _ => ?_
  rw [← Bool.decide_and, decide_eq_decide]
  omega

/-- What a call does to the clock, the limiter, the plans and the state is all that counts. -/
theorem next (h : Follows limiter past q) (call : DelayedCall α) {q' : DelayedQueue α}
    (now : q'.now = q.now + call.time)
    (memory : q'.rate.limiter = q.rate.limiter.run call.limiterCall?.toList)
    (plans : q'.agenda.plans = q.agenda.plans.filter (q.now + call.time < ·.1)
      ++ (delayedAdd? limiter past call).toList.filter (q.now + call.time < ·.1))
    (closed : q'.queue.closed = (q.queue.closed || call = .direct .shutDown)) :
    Follows limiter (past ++ [call]) q' := by
  have now_eq : q.now + call.time = elapsed (past ++ [call]) := by rw [h.now_eq, elapsed_concat]
  refine ⟨now.trans now_eq, ?_, ?_, ?_⟩
  · rw [memory, h.limiter_eq, limiterCalls_concat, Limiter.run_append]
  · have later : elapsed past ≤ elapsed (past ++ [call]) := by rw [elapsed_concat]; omega
    rw [plans, now_eq, delayedAdds_concat, List.filter_append, h.plans_eq, List.filter_filter]
    congr 1
    refine List.filter_congr fun p _ => ?_
    rw [← Bool.decide_and, decide_eq_decide]
    omega
  · rw [closed, h.closed_eq, ← Bool.decide_or, decide_eq_decide]
    simp [eq_comm]

/-- As long as the clock stands still, all plans are kept. -/
theorem filter_plans (h : Follows limiter past q) :
    q.agenda.plans.filter (q.now < ·.1) = q.agenda.plans :=
  List.filter_eq_self.2 fun p mem => decide_eq_true (h.ahead p mem)

/-- A call that takes no time and adds nothing later. -/
theorem next_of_prompt (h : Follows limiter past q) (call : DelayedCall α) {q' : DelayedQueue α}
    (instant : call.time = 0) (prompt : ∀ l : Limiter α, call.delayed? l = none)
    (agenda : q'.agenda = q.agenda)
    (memory : q'.rate.limiter = q.rate.limiter.run call.limiterCall?.toList)
    (closed : q'.queue.closed = (q.queue.closed || call = .direct .shutDown)) :
    Follows limiter (past ++ [call]) q' := by
  refine h.next call ?_ memory ?_ closed
  · rw [instant, DelayedQueue.now, agenda]
    rfl
  · rw [delayedAdd?_eq_none prompt, agenda, instant]
    exact h.filter_plans.symm.trans (List.append_nil _).symm

/-- A wait brings the queue where its milliseconds bring it. -/
theorem wait_succ {due : List α} {n : Nat}
    (h : Follows limiter (past ++ (moment due ++ [.wait n])) q) :
    Follows limiter (past ++ [.wait (n + 1)]) q := by
  refine h.congr ?_ ?_ ?_ ?_ <;> rw [← List.append_assoc]
  · simp only [elapsed_concat, elapsed_moment, DelayedCall.time]
    omega
  · simp only [limiterCalls_concat, limiterCalls_moment, DelayedCall.limiterCall?]
  · simp only [delayedAdds_concat, delayedAdds_moment]
    rw [delayedAdd?_eq_none fun _ => rfl, delayedAdd?_eq_none fun _ => rfl]
  · rw [List.mem_append, List.mem_append, mem_moment_shutDown]
    simp

end Follows

/-- In some calls the queue gives what the queue beneath it gives by the timetable, and both end up
alike. -/
structure Together (limiter : Limiter α) (past : List (DelayedCall α)) (q : DelayedQueue α)
    (calls : List (DelayedCall α)) : Prop where
  follows : Follows limiter (past ++ calls) (q.run calls).2
  same : q.rate.shared.run (timetable limiter past calls) = q.outcome calls

namespace Together

variable {limiter : Limiter α} {past calls more : List (DelayedCall α)} {q : DelayedQueue α}

theorem nil (h : Follows limiter past q) : Together limiter past q [] :=
  ⟨by rwa [List.append_nil], rfl⟩

theorem single {call : DelayedCall α} (follows : Follows limiter (past ++ [call]) (q.perform call).2)
    (same : q.rate.shared.run (entries limiter past call)
      = ((q.perform call).1, (q.perform call).2.rate.shared)) : Together limiter past q [call] :=
  ⟨follows, by simpa [timetable, withPast, DelayedQueue.outcome, DelayedQueue.run] using same⟩

theorem append (first : Together limiter past q calls)
    (rest : Together limiter (past ++ calls) (q.run calls).2 more) :
    Together limiter past q (calls ++ more) := by
  have left := first.same
  have right := rest.same
  simp only [DelayedQueue.outcome] at left right
  refine ⟨?_, ?_⟩
  · rw [← List.append_assoc, DelayedQueue.run_append]
    exact rest.follows
  · rw [timetable, withPast_append, SharedQueue.run_append, ← timetable, ← timetable, left, right,
      DelayedQueue.outcome, DelayedQueue.run_append]

theorem direct (h : Follows limiter past q) (call : QueueCall α) :
    Together limiter past q [.direct call] := by
  refine single (h.next_of_prompt _ rfl (fun _ => rfl) ?_ ?_ ?_) ?_ <;>
    simp only [DelayedQueue.perform, DelayedQueue.direct_eq]
  · rfl
  · simp [DelayedQueue.queue, SharedQueue.closed_perform, Bool.or_comm]
  · simp [entries, SharedQueue.run, h.now_eq]

theorem forget (h : Follows limiter past q) (x : α) : Together limiter past q [.forget x] := by
  refine single (h.next_of_prompt _ rfl (fun _ => rfl) rfl rfl ?_) ?_
  · simp [DelayedQueue.perform, DelayedQueue.forget, DelayedQueue.queue, RateQueue.forget]
  · show q.rate.shared.run (addsAt _ (delayedAdd? limiter past (.forget x)).toList) = _
    rw [delayedAdd?_eq_none fun _ => rfl]
    rfl

theorem tick (h : Follows limiter past q) : Together limiter past q [.tick] := by
  refine single (h.next _ DelayedQueue.now_tick ?_ ?_ ?_) ?_ <;>
    simp only [DelayedQueue.perform, DelayedQueue.moveTo_eq, h.dueBy_succ]
  · rfl
  · rw [delayedAdd?_eq_none fun _ => rfl]
    exact (List.append_nil _).symm
  · simp [DelayedQueue.queue, SharedQueue.closed_foldl_add]
  · exact SharedQueue.run_adds _ _ _

theorem delayed (h : Follows limiter past q) {call : DelayedCall α} {x : α} {delay : Nat}
    (delayed : call.delayed? q.rate.limiter = some (x, delay)) :
    Together limiter past q [call] := by
  have instant : q.now + call.time = q.now := by rw [DelayedCall.time_of_delayed delayed]; rfl
  have other : ¬call = .direct .shutDown := by rintro rfl; cases delayed
  have planned : delayedAdd? limiter past call = q.later? x delay := by
    rw [delayedAdd?, ← h.limiter_eq, delayed, DelayedQueue.later?, h.closed_eq, h.now_eq]
    simp
  refine single (h.next call ?_ ?_ ?_ ?_) ?_ <;>
    rw [DelayedQueue.perform_delayed delayed, DelayedQueue.addAfter_eq]
  · exact instant.symm
  · rw [instant, h.filter_plans, planned]
    rfl
  · simp [DelayedQueue.queue, SharedQueue.closed_foldl_add, other]
  · rw [entries_of_delayed delayed, planned, ← h.now_eq]
    exact SharedQueue.run_adds _ _ _

theorem wait (h : Follows limiter past q) (n : Nat) : Together limiter past q [.wait n] := by
  induction n generalizing past q with
  | zero =>
    refine single ?_ ?_ <;> rw [h.ahead.perform_wait_zero]
    · exact h.next_of_prompt _ rfl (fun _ => rfl) rfl rfl (by simp)
    · rfl
  | succ n ih =>
    -- the first millisecond as a tick, with the getters going on if an add is due, then the rest
    let due := dueAt (elapsed past + 1) (delayedAdds limiter past)
    have first : Together limiter past q (moment due) := by
      unfold moment
      split
      · exact tick h
      · exact (tick h).append (direct (tick h).follows .settle)
    have parts := first.append (ih first.follows)
    have split : q.perform (.wait (n + 1)) = q.run (moment due ++ [.wait n]) := by
      rw [h.ahead.perform_wait_succ, h.dueBy_succ]
    refine single ?_ ?_ <;> rw [split]
    · exact parts.follows.wait_succ
    · rw [entries_wait_succ]
      exact parts.same

theorem of_call (h : Follows limiter past q) (call : DelayedCall α) :
    Together limiter past q [call] := by
  cases call with
  | direct c => exact direct h c
  | addAfter x delay => exact delayed h rfl
  | addRateLimited clock x => exact delayed h rfl
  | forget x => exact forget h x
  | tick => exact tick h
  | wait n => exact wait h n

theorem of_calls (h : Follows limiter past q) (calls : List (DelayedCall α)) :
    Together limiter past q calls := by
  induction calls using List.reverseRecOn with
  | nil => exact nil h
  | append_singleton calls call ih => exact ih.append (of_call ih.follows call)

end Together

end NetAttach
