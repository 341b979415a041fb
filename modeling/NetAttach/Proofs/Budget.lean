-- SUMMARY: Every request is delivered until it succeeds or has failed four times, and not more often.
import NetAttach.Proofs.Wakeups

/-!
# The budget of a request

A request that failed is delivered again until it has failed four times. That it is not
delivered more often is read off the ledger. That it is delivered again at all is a
matter of progress: a crew can always take a step as long as it owes a delivery, and
every step takes away from the work that is left, unless it makes a new request.
-/

namespace NetAttach

open Controller

namespace Crew

/-! ## The work that is left -/

/-- How often the result of a request may still be seen to. -/
def chances (ms : List Mark) (t : Ticket) : Nat := maxRetries + 2 - (outcomes t ms).length

section

variable (retries : Nat) (chances : Ticket → Nat) (t : Ticket)

/-- At most as many steps are left when the result of a request is seen to: those of the worker and
its next look at the queue, and for each further try the way of the request through all phases. -/
def settlingWork : Nat := 9 + chances t * (reach retries t.request + 21)

/-- At most as many steps a worker brings with it. -/
noncomputable def phaseWork : Phase → Nat
  | .seeking => 2
  | .listed => 0
  | .asking t => settlingWork retries chances t + reach retries t.request + 4
  | .lined t _ => settlingWork retries chances t + reach retries t.request + 3
  | .working t _ rest => settlingWork retries chances t + rest.depth + 2
  | .sweeping t _ => settlingWork retries chances t + 1
  | .settling t _ => settlingWork retries chances t
  | .finishing _ => 8
  | .left => 0

/-- At most as many steps a request brings with it that is in the queue. -/
def dirtyWork : Nat := settlingWork retries chances t + reach retries t.request + 6

/-- The same for a request whose delay is not over. -/
def laterWork : Nat := settlingWork retries chances t + reach retries t.request + 12

/-- At most as many steps are left if no more requests are made. -/
noncomputable def work (s : Crew) : Nat :=
  s.controller.queue.shared.stir + load (phaseWork retries chances) s.controller.workers
    + load (dirtyWork retries chances) s.controller.queue.shared.queue.dirty
    + load (laterWork retries chances) s.later

end

section

variable {retries : Nat} {chances fewer : Ticket → Nat} {t : Ticket}

theorem settlingWork_mono (le : ∀ t, fewer t ≤ chances t) :
    settlingWork retries fewer t ≤ settlingWork retries chances t :=
  Nat.add_le_add_left (Nat.mul_le_mul_right _ (le t)) 9

/-- A request that is delayed has used up one of its tries. -/
theorem laterWork_lt (lt : fewer t < chances t) :
    laterWork retries fewer t + 8 < settlingWork retries chances t := by
  have := Nat.mul_le_mul_right (reach retries t.request + 21) (Nat.succ_le_of_lt lt)
  rw [Nat.succ_mul] at this
  unfold laterWork settlingWork
  omega

theorem work_mono (le : ∀ t, fewer t ≤ chances t) (s : Crew) :
    s.work retries fewer ≤ s.work retries chances := by
  have settling (t : Ticket) : settlingWork retries fewer t ≤ settlingWork retries chances t :=
    settlingWork_mono le
  have sum (t : Ticket) (n : Nat) : settlingWork retries fewer t + reach retries t.request + n
      ≤ settlingWork retries chances t + reach retries t.request + n :=
    Nat.add_le_add_right (Nat.add_le_add_right (settling t) _) n
  unfold work
  apply Nat.add_le_add (Nat.add_le_add (Nat.add_le_add_left ?_ _) ?_) ?_
  · apply load_mono
    intro p _
    cases p <;> simp [phaseWork, settling]
  · apply load_mono
    intro t _
    exact sum t 6
  · apply load_mono
    intro t _
    exact sum t 12

end

/-! ## Every step takes away from it -/

section

variable {c c' : Controller} {i retries : Nat} {p p' : Phase} {taken delayed : List Ticket}
  {chances fewer : Ticket → Nat}

/-- A worker that moves has less before it than it had, with what it takes and delays. -/
theorem lighter_of_move (move : Move c i p p' taken delayed c')
    (same : c.conflictRetries = retries) (open_ : c.queue.shared.queue.closed = false)
    (used : ∀ t ∈ delayed, fewer t < chances t) :
    c'.queue.shared.stir + phaseWork retries chances p' + load (laterWork retries fewer) delayed
      < c.queue.shared.stir + phaseWork retries chances p
        + load (dirtyWork retries chances) taken := by
  cases move with
  | register =>
    obtain ⟨-, -, stir⟩ := c.queue.shared.getters_register i
    simp only [enter, withShared, phaseWork, load_nil]
    omega
  | @restart g found woken =>
    have dropped := SharedQueue.stir_drop found
    have signalled : g.signal.isSome = true := by
      simp only [Getter.woken, Bool.and_eq_true] at woken
      exact woken.2
    simp only [Getter.stir, signalled, if_true] at dropped
    simp only [enter, withShared, phaseWork, load_nil]
    omega
  | vain found unchecked empty =>
    have looked := SharedQueue.stir_vain found unchecked empty open_
    simp only [enter, withShared, phaseWork, load_nil]
    omega
  | @get g t rest found unchecked taken =>
    have passed : (SharedQueue.leave ⟨rest, c.queue.shared.permit, c.queue.shared.getters⟩ i).stir
        ≤ c.queue.shared.stir + 1 := SharedQueue.stir_leave (by exact found) unchecked
    simp only [enter, withShared, phaseWork, load_cons, load_nil, dirtyWork]
    omega
  | pass passes =>
    cases passes with
    | grant t =>
      have depth : (reconcile c.conflictRetries t.request).run.depth ≤ reach retries t.request :=
        same ▸ Program.depth_le (within_reconcile c.conflictRetries t.request)
      simp only [enter, phaseWork, load_nil]
      omega
    | _ =>
      simp only [enter, phaseWork, load_nil]
      omega
  | again t cause clock =>
    have used : laterWork retries fewer t + 8 < settlingWork retries chances t :=
      laterWork_lt (used t (List.mem_singleton.2 rfl))
    have shared : (c.queue.nextDelay clock t).2.shared = c.queue.shared := rfl
    simp only [enter, shared, phaseWork, load_cons, load_nil]
    omega
  | finish t =>
    have done := SharedQueue.stir_done (q := c.queue.shared) (x := t)
    simp only [enter, RateQueue.done, phaseWork, load_nil]
    omega
  | _ =>
    simp only [enter, RateQueue.forget, phaseWork, settlingWork, load_nil]
    omega

theorem mark_of_delayed (move : Move c i p p' taken delayed c') {t : Ticket} (mem : t ∈ delayed) :
    ∃ r, p.mark p' = .handled t r := by
  cases move with
  | again u cause =>
    rw [List.mem_singleton.1 mem]
    exact ⟨_, rfl⟩
  | _ => cases mem

end

section

variable {s s' : Crew} {ms : List Mark} {m : Mark} {t : Ticket} {retries workers i : Nat}
  {p p' : Phase} {taken delayed : List Ticket} {c : Controller}

theorem chances_snoc_le (m : Mark) (t : Ticket) : chances (ms ++ [m]) t ≤ chances ms t := by
  unfold chances
  rw [outcomes_snoc, List.length_append]
  omega

theorem Sound.work_move (h : s.Sound retries workers ms)
    (move : Move s.controller i p p' taken delayed c) (hp : s.controller.phase i = p)
    (after : Sound retries workers (ms ++ [p.mark p']) ⟨c, s.later ++ delayed⟩) :
    work retries (chances (ms ++ [p.mark p'])) ⟨c, s.later ++ delayed⟩
      < work retries (chances ms) s := by
  have used (t : Ticket) (mem : t ∈ delayed) : chances (ms ++ [p.mark p']) t < chances ms t := by
    obtain ⟨r, mark⟩ := mark_of_delayed move mem
    have waits : 0 < Crew.pending ⟨c, s.later ++ delayed⟩ t := by
      have := load_of_mem mem
      simp only [Crew.pending, load_append]
      omega
    have few := ((after.ledger t).owed_of_pos waits).1.2.1
    have counted : (outcomes t (ms ++ [p.mark p'])).length = (outcomes t ms).length + 1 := by
      simp [mark, outcomes_snoc]
    unfold chances
    omega
  have lighter := lighter_of_move move h.conflictRetries h.open_ used
  have workers := move.load_workers hp (phaseWork retries (chances ms))
  have dirty := move.shifts.load_dirty h.orderly (dirtyWork retries (chances ms))
  have mono : work retries (chances (ms ++ [p.mark p'])) ⟨c, s.later⟩
      ≤ work retries (chances ms) ⟨c, s.later⟩ := work_mono (chances_snoc_le _) _
  simp only [work, load_append] at *
  omega

/-- A worker goes on with an answer. -/
theorem work_act (alert : s.controller.Alert) {lock : Nat} {action : Action}
    {k : action.Answer → Control (Except Fault Unit)}
    (hp : s.controller.phase i = .working t lock (.act action k)) (answer : action.Answer) :
    work retries (chances ms) ⟨s.controller.enter i (.working t lock (k answer)), s.later⟩
      < work retries (chances ms) s := by
  have nearer := ((alert.bounded hp).next answer).2
  have workers := load_set_phase hp nofun (.working t lock (k answer)) (phaseWork retries (chances ms))
  simp only [work, enter, phaseWork] at *
  omega

/-- A delay is over. -/
theorem work_due {front back : List Ticket} (later : s.later = front ++ t :: back) :
    work retries (chances ms) ⟨s.controller.add t, front ++ back⟩ < work retries (chances ms) s := by
  have signalled := SharedQueue.stir_add (q := s.controller.queue.shared) (x := t)
  have dirty := WorkQueue.load_add (q := s.controller.queue.shared.queue) (x := t)
    (dirtyWork retries (chances ms))
  simp only [work, Controller.add, RateQueue.add, SharedQueue.queue_add, dirty, later, load_append,
    load_cons, dirtyWork, laterWork]
  split <;> omega

/-- Every step that makes no request leaves less work. -/
theorem Sound.work_step (h : s.Sound retries workers ms) (alert : s.controller.Alert)
    (step : s.Step m s') (own : ∀ u, m ≠ .made u) :
    work retries (chances (ms ++ [m])) s' < work retries (chances ms) s := by
  have after := h.step step
  cases h.does step with
  | move before move => exact h.work_move move before after
  | act before answer =>
    exact Nat.lt_of_le_of_lt (work_mono (chances_snoc_le .other) _) (work_act alert before answer)
  | enqueue request => exact absurd rfl (own _)
  | due later => exact Nat.lt_of_le_of_lt (work_mono (chances_snoc_le .other) _) (work_due later)

end

/-! ## Owed deliveries come -/

/-- A crew after a run with some marks, for which a number of requests are still to be made. -/
structure Stint where
  marks : List Mark
  crew : Crew
  coming : Nat

/-- One step more. A request is made only while some are still to be made. -/
inductive Stint.Step : Stint → Stint → Prop where
  | works {ms : List Mark} {s s' : Crew} {n : Nat} {m : Mark} (step : s.Step m s')
    (own : ∀ t, m ≠ .made t) : Step ⟨ms, s, n⟩ ⟨ms ++ [m], s', n⟩
  | makes {ms : List Mark} {s s' : Crew} {n : Nat} {t : Ticket} (step : s.Step (.made t) s') :
    Step ⟨ms, s, n + 1⟩ ⟨ms ++ [.made t], s', n⟩

/-- After a number of deliveries of a request the next one is owed. -/
structure Awaits (conflictRetries workers : Nat) (t : Ticket) (k : Nat) (ms : List Mark) (s : Crew) :
    Prop where
  sound : s.Sound conflictRetries workers ms
  alert : s.controller.Alert
  owed : Owed t ms
  idle : load (delivering t) s.controller.workers = 0
  count : deliveries t ms = k

section

variable {s s' : Crew} {ms : List Mark} {m : Mark} {t : Ticket} {retries workers k n : Nat}

/-- The next delivery is owed until it comes. -/
theorem Awaits.step (h : Awaits retries workers t k ms s) (step : s.Step m s') :
    k < deliveries t (ms ++ [m]) ∨ Awaits retries workers t k (ms ++ [m]) s' := by
  have sound := h.sound.step step
  have before := (h.sound.ledger t).delivered
  have after := (sound.ledger t).delivered
  rw [h.idle, h.count] at before
  -- nobody holds the request, so that no result of it is seen to
  have same : outcomes t (ms ++ [m]) = outcomes t ms := by
    cases m with
    | handled u r =>
      rw [outcomes_snoc] at after ⊢
      dsimp only at after ⊢
      split
      · next about =>
        rw [if_pos about, deliveries_snoc, h.count, List.length_append, List.length_singleton] at after
        dsimp only at after
        omega
      · exact List.append_nil _
    | _ => simp [outcomes_snoc]
  rw [same] at after
  have grows : k ≤ deliveries t (ms ++ [m]) := by
    rw [deliveries_snoc, h.count]
    exact Nat.le_add_right _ _
  obtain more | count := Nat.lt_or_eq_of_le grows
  · exact .inl more
  · have made : made t (ms ++ [m]) = true := by simp [made_snoc, h.owed.1]
    exact .inr ⟨sound, h.sound.alert_step h.alert step, ⟨made, same ▸ h.owed.2⟩, by omega, count.symm⟩

/-- An owed delivery comes, however many requests are still made in between. -/
theorem Awaits.delivered (h : Awaits retries workers t k ms s) (some : 0 < workers) :
    Inevitably Stint.Step (fun x => k < deliveries t x.marks) ⟨ms, s, n⟩ := by
  induction n using Nat.strongRecOn generalizing ms s with
  | ind n ih =>
    refine Inevitably.of_rank (I := fun x => x.coming = n ∧ Awaits retries workers t k x.marks x.crew)
      (fun x => x.crew.work retries (chances x.marks)) ?_ ⟨rfl, h⟩
    rintro ⟨ms, s, coming⟩ ⟨rfl, h⟩
    refine .inr ⟨?_, fun y step => ?_⟩
    · obtain ⟨m, s', step, own⟩ := h.sound.exists_step h.alert some h.owed h.idle
      exact ⟨_, .works step own⟩
    · cases step with
      | works step own =>
        obtain there | awaits := h.step step
        · exact .inl (.now there)
        · exact .inr ⟨⟨rfl, awaits⟩, h.sound.work_step h.alert step own⟩
      | makes step =>
        obtain there | awaits := h.step step
        · exact .inl (.now there)
        · exact .inl (ih _ (Nat.lt_succ_self _) awaits)

end

/-! ## Runs -/

section

variable {s s' : Crew} {ms : List Mark} {m : Mark} {t : Ticket} {retries workers : Nat}

theorem alert_of_run (run : Run Crew.Step (start retries workers) ms s) : s.controller.Alert :=
  (run.invariant_with (I := fun ms s => s.Sound retries workers ms ∧ s.controller.Alert)
    (fun h step => ⟨h.1.step step, h.1.alert_step h.2 step⟩)
    ⟨sound_start retries workers, alert_ofWorkers retries workers⟩).2

/-- Nothing is delivered without workers. -/
theorem workers_of_delivered (run : Run Crew.Step (start retries workers) ms s)
    (some : 0 < deliveries t ms) : 0 < workers := by
  induction run with
  | nil => cases some
  | @snoc s s' ms m run step ih =>
    have sound := sound_of_run run
    rw [deliveries_snoc] at some
    cases sound.does step with
    | move before move =>
      have there := lt_of_phase before move.ne_left
      rw [sound.workers] at there
      exact Nat.zero_lt_of_lt there
    | act | enqueue | due => exact ih some

end

/-! ## What the ledger says about the budget -/

section

variable {s s' : Crew} {ms : List Mark} {m : Mark} {t : Ticket} {retries workers : Nat}
  {pre post : List (Except Fault Unit)} {r : Except Fault Unit}

theorem Ledger.delivering_le (h : s.Ledger ms t) : load (delivering t) s.controller.workers ≤ 1 := by
  have owed := h.owed
  unfold pending at owed
  split at owed <;> omega

/-- A request has as many results as deliveries, or one less while it is being delivered. -/
theorem Ledger.outcomes_deliveries (h : s.Ledger ms t) :
    (outcomes t ms).length ≤ deliveries t ms ∧ deliveries t ms ≤ (outcomes t ms).length + 1 := by
  have delivered := h.delivered
  have one := h.delivering_le
  omega

theorem Ledger.deliveries_le (h : s.Ledger ms t) : deliveries t ms ≤ maxRetries + 2 := by
  have delivered := h.delivered
  have one := h.delivering_le
  by_cases busy : 0 < load (delivering t) s.controller.workers
  · have few := (h.trying busy).1.1
    omega
  · obtain none | ⟨pre, r, last⟩ := (outcomes t ms).eq_nil_or_concat
    · rw [none] at delivered
      dsimp only [List.length_nil] at delivered
      omega
    · rw [List.concat_eq_append] at last
      have few := (h.before pre r [] last).1
      rw [last, List.length_append, List.length_singleton] at delivered
      omega

/-- A delivery that was followed by another one failed, and was not the last of the budget. -/
theorem Ledger.failed_of_followed (h : s.Ledger ms t) (results : outcomes t ms = pre ++ r :: post)
    (followed : pre.length + 1 < deliveries t ms) :
    r.isOk = false ∧ pre.length + 1 < maxRetries + 2 := by
  have failing : Failing (pre ++ [r]) := by
    cases post with
    | nil =>
      have delivered := h.delivered
      rw [results, List.length_append, List.length_singleton] at delivered
      exact results ▸ (h.trying (by omega)).1
    | cons r' post => exact h.before (pre ++ [r]) r' post (by rw [results, List.append_cons])
  obtain ⟨few, -, failed⟩ := failing_snoc.1 failing
  exact ⟨failed, Nat.succ_lt_succ (Nat.lt_succ_of_le few)⟩

/-- After a failure that is not the last of the budget a request is to be tried again. -/
theorem Ledger.failing (h : s.Ledger ms t) (results : outcomes t ms = pre ++ [r])
    (failed : r.isOk = false) (few : pre.length + 1 < maxRetries + 2) : Failing (outcomes t ms) := by
  rw [results]
  exact failing_snoc.2 ⟨Nat.le_of_lt_succ (Nat.lt_of_succ_lt_succ few), (h.before pre r [] results).2,
    failed⟩

/-- A delivery that failed and was not the last of the budget is followed by another one. -/
theorem redelivered_of_run (run : Run Crew.Step (start retries workers) ms s)
    (results : outcomes t ms = pre ++ r :: post) (failed : r.isOk = false)
    (few : pre.length + 1 < maxRetries + 2) (n : Nat) :
    Inevitably Stint.Step (fun x => pre.length + 1 < deliveries t x.marks) ⟨ms, s, n⟩ := by
  by_cases followed : pre.length + 1 < deliveries t ms
  · exact .now followed
  have sound := sound_of_run run
  have ledger := sound.ledger t
  have delivered := ledger.delivered
  rw [results, List.length_append, List.length_cons] at delivered
  obtain rfl : post = [] := List.eq_nil_of_length_eq_zero (by omega)
  have made : made t ms = true := by
    cases made : made t ms with
    | true => rfl
    | false =>
      have := ledger.unmade made
      omega
  have awaits : Awaits retries workers t (pre.length + 1) ms s :=
    ⟨sound, alert_of_run run, ⟨made, ledger.failing results failed few⟩, by omega, by omega⟩
  exact awaits.delivered (workers_of_delivered run (t := t) (by omega))

/-- A request of which nothing is left: it has no retries, and is neither in the queue nor delayed. -/
structure Gone (s : Crew) (t : Ticket) : Prop where
  forgotten : s.controller.queue.retries t = 0
  waiting : t ∉ s.controller.queue.shared.queue.waiting
  dirty : t ∉ s.controller.queue.shared.queue.dirty
  processing : t ∉ s.controller.queue.shared.queue.processing
  later : t ∉ s.later

/-- After its last result, and marked as done, nothing is left of a request. -/
theorem Sound.gone (h : s.Sound retries workers ms) (results : outcomes t ms = pre ++ [r])
    (last : r.isOk = true ∨ pre.length + 1 = maxRetries + 2)
    (completed : completions t ms = pre.length + 1) : s.Gone t := by
  have ledger := h.ledger t
  have spent : ¬Failing (outcomes t ms) := by
    rw [results]
    intro failing
    obtain ⟨few, -, failed⟩ := failing_snoc.1 failing
    obtain success | fourth := last
    · rw [failed] at success
      cases success
    · omega
  have owed := ledger.owed
  rw [if_neg fun owed => spent owed.2] at owed
  have delivered := ledger.delivered
  rw [results, List.length_append, List.length_singleton] at delivered
  have holders := ledger.completed
  have held := h.held t
  unfold pending at owed
  have clean : t ∉ s.controller.queue.shared.queue.dirty := fun mem => by
    have := load_of_mem mem
    omega
  refine ⟨ledger.tries.trans (if_neg spent), fun mem => clean ((h.orderly.mem_waiting t).1 mem).1,
    clean, fun mem => ?_, fun mem => ?_⟩
  · have := load_of_mem mem
    omega
  · have := load_of_mem mem
    omega

/-- A step that is not about a request leaves its retry count alone. -/
theorem Sound.retries_step (h : s.Sound retries workers ms) (step : s.Step m s')
    (other : m.ticket? ≠ some t) :
    s'.controller.queue.retries t = s.controller.queue.retries t := by
  cases h.does step with
  | move before move =>
    obtain ⟨-, -, -, -, same⟩ := unconcerned move h.standard other
    exact same
  | act | enqueue | due => rfl

/-- A delivery of a request is followed by another one exactly if it fails and is not the fourth, and
after the last nothing is left of the request. Until then its retry count is the number of its
failures. The steps for other requests leave it alone, and every request is another one than those
before it. -/
theorem request_is_delivered_again_within_its_budget
    (run : Run Crew.Step (start retries workers) ms s) :
    (∀ t, deliveries t ms ≤ maxRetries + 2
      ∧ ((outcomes t ms).length ≤ deliveries t ms ∧ deliveries t ms ≤ (outcomes t ms).length + 1)
      ∧ (∀ pre r post, outcomes t ms = pre ++ r :: post →
        (pre.length + 1 < deliveries t ms → r.isOk = false ∧ pre.length + 1 < maxRetries + 2)
        ∧ (r.isOk = false → pre.length + 1 < maxRetries + 2 → ∀ n,
          Inevitably Stint.Step (fun x => pre.length + 1 < deliveries t x.marks) ⟨ms, s, n⟩))
      ∧ (∀ pre r, outcomes t ms = pre ++ [r] →
        (r.isOk = false → pre.length + 1 < maxRetries + 2 →
          s.controller.queue.retries t = pre.length + 1)
        ∧ (r.isOk = true ∨ pre.length + 1 = maxRetries + 2 → completions t ms = pre.length + 1 →
          s.Gone t))
      ∧ ∀ m s', s.Step m s' → m.ticket? ≠ some t →
        s'.controller.queue.retries t = s.controller.queue.retries t)
    ∧ ∀ request, made (s.controller.ticket request) ms = false := by
  have sound := sound_of_run run
  refine ⟨fun t => ?_, sound.new⟩
  have ledger := sound.ledger t
  refine ⟨ledger.deliveries_le, ledger.outcomes_deliveries, ?_, ?_, ?_⟩
  · intro pre r post results
    exact ⟨ledger.failed_of_followed results, redelivered_of_run run results⟩
  · intro pre r results
    refine ⟨fun failed few => ?_, sound.gone results⟩
    rw [ledger.tries, if_pos (ledger.failing results failed few), results, List.length_append,
      List.length_singleton]
  · intro m s' step other
    exact sound.retries_step step other

/-- Of two requests with the same content the first has failed and will come again. -/
theorem equal_requests_have_budgets_of_their_own :
    ∃ (ms : List Mark) (s : Crew) (t u : Ticket), Run Crew.Step (start 5 1) ms s
      ∧ t ≠ u ∧ t.request = u.request
      ∧ outcomes t ms = [.error (.notFound .pod t.request.pod)] ∧ outcomes u ms = []
      ∧ s.controller.queue.retries t = 1 ∧ s.controller.queue.retries u = 0
      ∧ ∀ n, Inevitably Stint.Step (fun x => 1 < deliveries t x.marks) ⟨ms, s, n⟩ := by
  let pod : ObjectKey := ⟨"s", "p"⟩
  let r : Request := ⟨pod, .add, [], ""⟩
  obtain ⟨ms, s, run, first, second⟩ : ∃ ms s, Run Crew.Step (start 5 1) ms s
      ∧ outcomes ⟨0, r⟩ ms = [.error (.notFound .pod pod)] ∧ outcomes ⟨1, r⟩ ms = [] := by
    have run := Run.nil
      |>.snoc (Step.enqueue (s := start 5 1) r)
      |>.snoc (Step.enqueue r)
      |>.snoc (Step.move (rfl : turn _ 0 0 = .moves _ _))
      |>.snoc (Step.move (rfl : turn _ 0 0 = .moves _ _))
      |>.snoc (Step.move (rfl : turn _ 0 0 = .moves _ _))
      |>.snoc (Step.move (rfl : turn _ 0 0 = .moves _ _))
      |>.snoc (Step.act (rfl : turn _ 0 0 = .acts (.getPod pod) _) (Except.error (.notFound .pod pod)))
      |>.snoc (Step.move (rfl : turn _ 0 0 = .moves _ _))
      |>.snoc (Step.move (rfl : turn _ 0 0 = .moves _ _))
      |>.snoc (Step.move (rfl : turn _ 0 0 = .moves _ _))
    exact ⟨_, _, run, rfl, rfl⟩
  have budget := (request_is_delivered_again_within_its_budget run).1 ⟨0, r⟩
  have untried := ((sound_of_run run).ledger ⟨1, r⟩).tries
  rw [second] at untried
  exact ⟨ms, s, ⟨0, r⟩, ⟨1, r⟩, run, nofun, rfl, first, second,
    (budget.2.2.2.1 [] _ first).1 rfl (by decide), untried,
    (budget.2.2.1 [] _ [] first).2 rfl (by decide)⟩

end

end Crew

end NetAttach
