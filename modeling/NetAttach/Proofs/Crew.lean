-- SUMMARY: Several workers and their delayed requests: what happened in a run, and what has become of each request.
import NetAttach.Proofs.Moves

/-!
# Crews of workers

Any number of workers take requests from one queue. A request that failed is delayed and
added again when its delay is over, at any moment. A run is recorded as marks, one for
each step, and the marks of a request tell what has become of it.
-/

namespace NetAttach

/-! ## Steps -/

/-- A controller at work, and the requests whose delays are not over. -/
structure Crew where
  controller : Controller
  later : List Ticket

/-- What a step means for a request. -/
inductive Mark where
  /-- The request is made and added to the queue. -/
  | made (t : Ticket)
  /-- A worker gets it from the queue. -/
  | delivered (t : Ticket)
  /-- A worker sees to the result of working it off. -/
  | handled (t : Ticket) (result : Except Fault Unit)
  /-- It is marked as done. -/
  | finished (t : Ticket)
  | other

/-- The request that a mark is about. -/
def Mark.ticket? : Mark → Option Ticket
  | .made t | .delivered t | .handled t _ | .finished t => some t
  | .other => none

/-- What it means that a worker goes from one phase to the next. -/
def Phase.mark : Phase → Phase → Mark
  | .listed, .asking t => .delivered t
  | .settling t r, _ => .handled t r
  | .finishing t, _ => .finished t
  | _, _ => .other

namespace Crew

/-- A crew of some workers without requests. -/
def start (conflictRetries workers : Nat) : Crew := ⟨.ofWorkers conflictRetries workers, []⟩

/-- One step of a worker, which may act and meet with any answer, or from outside: a request is made,
or a delay is over. -/
inductive Step (s : Crew) : Mark → Crew → Prop where
  | move {c : Controller} {clock i : Nat} {effects : List Effect}
    (turn : s.controller.turn clock i = .moves c effects) :
    Step s ((s.controller.phase i).mark (c.phase i)) ⟨c, s.later ++ effects.filterMap Effect.ticket?⟩
  | act {clock i : Nat} {action : Action} {next : action.Answer → Controller}
    (turn : s.controller.turn clock i = .acts action next) (answer : action.Answer) :
    Step s .other ⟨next answer, s.later⟩
  | enqueue (request : Request) :
    Step s (.made (s.controller.ticket request)) ⟨s.controller.enqueue request, s.later⟩
  | due {front back : List Ticket} {t : Ticket} (later : s.later = front ++ t :: back) :
    Step s .other ⟨s.controller.add t, front ++ back⟩

/-! ## Records -/

/-- A request was made. -/
def made (t : Ticket) (ms : List Mark) : Bool :=
  ms.any fun
    | .made u => u = t
    | _ => false

/-- How often a request was delivered. -/
def deliveries (t : Ticket) (ms : List Mark) : Nat :=
  ms.countP fun
    | .delivered u => u = t
    | _ => false

/-- The results of a request that were seen to, in their order. -/
def outcomes (t : Ticket) (ms : List Mark) : List (Except Fault Unit) :=
  ms.filterMap fun
    | .handled u r => if u = t then some r else none
    | _ => none

/-- How often a request was marked as done. -/
def completions (t : Ticket) (ms : List Mark) : Nat :=
  ms.countP fun
    | .finished u => u = t
    | _ => false

/-- A request that had these results is to be tried again: none was a success, and they are not too
many. -/
def Failing (rs : List (Except Fault Unit)) : Prop :=
  rs.length ≤ maxRetries + 1 ∧ ∀ r ∈ rs, r.isOk = false

instance (rs : List (Except Fault Unit)) : Decidable (Failing rs) :=
  inferInstanceAs (Decidable (_ ∧ _))

theorem failing_snoc {rs : List (Except Fault Unit)} {r : Except Fault Unit} :
    Failing (rs ++ [r]) ↔ rs.length ≤ maxRetries ∧ (∀ r' ∈ rs, r'.isOk = false) ∧ r.isOk = false := by
  unfold Failing
  rw [List.length_append, List.length_singleton, Nat.add_le_add_iff_right, List.forall_mem_append,
    List.forall_mem_singleton]

/-- A request was made, and has to be delivered once more. -/
def Owed (t : Ticket) (ms : List Mark) : Prop := made t ms = true ∧ Failing (outcomes t ms)

instance (t : Ticket) (ms : List Mark) : Decidable (Owed t ms) :=
  inferInstanceAs (Decidable (_ ∧ _))

section

variable {t u : Ticket} {ms : List Mark} {m : Mark}

theorem made_snoc : made t (ms ++ [m]) = (made t ms || match m with
    | .made u => u = t
    | _ => false) := by
  cases m <;> simp [made]

theorem deliveries_snoc : deliveries t (ms ++ [m]) = deliveries t ms + match m with
    | .delivered u => Controller.only t u
    | _ => 0 := by
  cases m <;> simp [deliveries, Controller.only, List.countP_singleton]

theorem outcomes_snoc : outcomes t (ms ++ [m]) = outcomes t ms ++ match m with
    | .handled u r => if u = t then [r] else []
    | _ => [] := by
  cases m with
  | handled u r => by_cases h : u = t <;> simp [outcomes, h]
  | _ => simp [outcomes]

theorem completions_snoc : completions t (ms ++ [m]) = completions t ms + match m with
    | .finished u => Controller.only t u
    | _ => 0 := by
  cases m <;> simp [completions, Controller.only, List.countP_singleton]

end

/-! ## What every state satisfies -/

/-- A worker holds a request and has not seen to its result yet. -/
def delivering (t : Ticket) : Phase → Nat
  | .finishing _ => 0
  | p => Controller.holding t p

/-- The requests that are delayed, dirty or being delivered, as often as they are. -/
def pending (s : Crew) (t : Ticket) : Nat :=
  load (Controller.only t) s.later
    + load (Controller.only t) s.controller.queue.shared.queue.dirty
    + load (delivering t) s.controller.workers

/-- What has become of a request. If it is owed, it is delayed, dirty, or being delivered. -/
structure Ledger (s : Crew) (ms : List Mark) (t : Ticket) : Prop where
  owed : s.pending t = if Owed t ms then 1 else 0
  delivered : deliveries t ms = (outcomes t ms).length + load (delivering t) s.controller.workers
  completed : completions t ms + load (Controller.holding t) s.controller.workers = deliveries t ms
  tries : s.controller.queue.retries t
    = if Failing (outcomes t ms) then (outcomes t ms).length else 0
  before : ∀ pre r post, outcomes t ms = pre ++ r :: post → Failing pre
  unmade : made t ms = false → deliveries t ms = 0

/-- What holds of a crew after a run with these marks. -/
structure Sound (conflictRetries workers : Nat) (ms : List Mark) (s : Crew) : Prop where
  conflictRetries : s.controller.conflictRetries = conflictRetries
  workers : s.controller.workers.length = workers
  open_ : s.controller.queue.shared.queue.closed = false
  standard : s.controller.queue.limiter.IsStandard
  orderly : s.controller.queue.shared.queue.Orderly
  locks : s.controller.LocksSound
  held : ∀ t, load (Controller.only t) s.controller.queue.shared.queue.processing
    = load (Controller.holding t) s.controller.workers
  numbers : ∀ t, made t ms = true → t.number < s.controller.made
  ledger : ∀ t, s.Ledger ms t

/-- What a step of a crew comes to whose queue is open. -/
inductive Does (s : Crew) : Mark → Crew → Prop where
  | move {c : Controller} {i : Nat} {p p' : Phase} {taken delayed : List Ticket}
    (before : s.controller.phase i = p)
    (move : Controller.Move s.controller i p p' taken delayed c) :
    Does s (p.mark p') ⟨c, s.later ++ delayed⟩
  | act {i lock : Nat} {t : Ticket} {action : Action}
    {k : action.Answer → Control (Except Fault Unit)}
    (before : s.controller.phase i = .working t lock (.act action k)) (answer : action.Answer) :
    Does s .other ⟨s.controller.enter i (.working t lock (k answer)), s.later⟩
  | enqueue (request : Request) :
    Does s (.made (s.controller.ticket request)) ⟨s.controller.enqueue request, s.later⟩
  | due {front back : List Ticket} {t : Ticket} (later : s.later = front ++ t :: back) :
    Does s .other ⟨s.controller.add t, front ++ back⟩

section

variable {s s' : Crew} {ms : List Mark} {m : Mark} {retries workers : Nat}

theorem Sound.does (h : s.Sound retries workers ms) (step : s.Step m s') : s.Does m s' := by
  cases step with
  | move turn =>
    obtain ⟨p', taken, move⟩ := Controller.move_of_turn h.open_ h.standard turn
    rw [move.phase rfl, if_pos rfl]
    exact .move rfl move
  | act turn answer =>
    obtain ⟨t, lock, k, before, rfl⟩ := Controller.turn_acts turn
    exact .act before answer
  | enqueue request => exact .enqueue request
  | due later => exact .due later

theorem Step.locks (step : s.Step m s') (h : s.controller.LocksSound) :
    s'.controller.LocksSound := by
  cases step with
  | move turn => exact h.step (.move turn)
  | act turn answer =>
    obtain ⟨t, lock, k, before, rfl⟩ := Controller.turn_acts turn
    exact h.step (.act turn before answer)
  | enqueue request => exact h.step (.enqueue _ request)
  | due => exact h.step (.add _ _)

end

/-! ## What one step preserves -/

section

variable {s s' : Crew} {ms : List Mark} {m : Mark} {t : Ticket}

/-- A step that is not about a request leaves its ledger as it is. -/
theorem Ledger.other (h : s.Ledger ms t) (other : m.ticket? ≠ some t) (pending : s'.pending t = s.pending t)
    (delivers : load (delivering t) s'.controller.workers = load (delivering t) s.controller.workers)
    (holds : load (Controller.holding t) s'.controller.workers
      = load (Controller.holding t) s.controller.workers)
    (tries : s'.controller.queue.retries t = s.controller.queue.retries t) :
    s'.Ledger (ms ++ [m]) t := by
  have hmade : made t (ms ++ [m]) = made t ms := by
    cases m <;> simp_all [made_snoc, Mark.ticket?]
  have hdeliveries : deliveries t (ms ++ [m]) = deliveries t ms := by
    cases m <;> simp_all [deliveries_snoc, Mark.ticket?, Controller.only]
  have houtcomes : outcomes t (ms ++ [m]) = outcomes t ms := by
    cases m <;> simp_all [outcomes_snoc, Mark.ticket?]
  have hcompletions : completions t (ms ++ [m]) = completions t ms := by
    cases m <;> simp_all [completions_snoc, Mark.ticket?, Controller.only]
  refine ⟨?_, ?_, ?_, ?_, ?_, ?_⟩
  · have same : Owed t (ms ++ [m]) ↔ Owed t ms := by rw [Owed, Owed, hmade, houtcomes]
    rw [pending, h.owed]
    simp only [same]
  · rw [hdeliveries, houtcomes, delivers, h.delivered]
  · rw [hcompletions, hdeliveries, holds, h.completed]
  · rw [tries, houtcomes, h.tries]
  · rw [houtcomes]
    exact h.before
  · rw [hmade, hdeliveries]
    exact h.unmade

/-- A pending request is owed, and pending once. -/
theorem Ledger.owed_of_pos (h : s.Ledger ms t) (pos : 0 < s.pending t) :
    Owed t ms ∧ s.pending t = 1 := by
  have owed := h.owed
  split at owed
  · next yes => exact ⟨yes, owed⟩
  · omega

theorem Ledger.trying (h : s.Ledger ms t) (pos : 0 < load (delivering t) s.controller.workers) :
    Failing (outcomes t ms) ∧ s.controller.queue.retries t = (outcomes t ms).length := by
  have failing := (h.owed_of_pos (by unfold pending; omega)).1.2
  exact ⟨failing, h.tries.trans (if_pos failing)⟩

/-- A request is delivered that was dirty. -/
theorem Ledger.deliver (h : s.Ledger ms t) (pos : 0 < s.pending t) (pending : s'.pending t = s.pending t)
    (delivers : load (delivering t) s'.controller.workers
      = load (delivering t) s.controller.workers + 1)
    (holds : load (Controller.holding t) s'.controller.workers
      = load (Controller.holding t) s.controller.workers + 1)
    (tries : s'.controller.queue.retries t = s.controller.queue.retries t) :
    s'.Ledger (ms ++ [.delivered t]) t := by
  obtain ⟨owed, one⟩ := h.owed_of_pos pos
  have delivered := h.delivered
  have completed := h.completed
  refine ⟨?_, ?_, ?_, ?_, ?_, ?_⟩
  · have same : Owed t (ms ++ [.delivered t]) ↔ Owed t ms := by
      simp [Owed, made_snoc, outcomes_snoc]
    rw [pending, h.owed]
    simp only [same]
  · simp [deliveries_snoc, outcomes_snoc, Controller.only]
    omega
  · simp [deliveries_snoc, completions_snoc, Controller.only]
    omega
  · simpa [outcomes_snoc, tries] using h.tries
  · simpa [outcomes_snoc] using h.before
  · simp [made_snoc, owed.1]

/-- A result is seen to. The request is delayed if it is to be tried again. -/
theorem Ledger.handle {r : Except Fault Unit} (h : s.Ledger ms t)
    (delivers : load (delivering t) s'.controller.workers + 1
      = load (delivering t) s.controller.workers)
    (holds : load (Controller.holding t) s'.controller.workers
      = load (Controller.holding t) s.controller.workers)
    (pending : s'.pending t + 1
      = s.pending t + if Failing (outcomes t ms ++ [r]) then 1 else 0)
    (tries : s'.controller.queue.retries t
      = if Failing (outcomes t ms ++ [r]) then s.controller.queue.retries t + 1 else 0) :
    s'.Ledger (ms ++ [.handled t r]) t := by
  have pos : 0 < s.pending t := by
    unfold Crew.pending
    omega
  obtain ⟨owed, one⟩ := h.owed_of_pos pos
  have outcomes' : outcomes t (ms ++ [.handled t r]) = outcomes t ms ++ [r] := by
    simp [outcomes_snoc]
  have delivered := h.delivered
  have completed := h.completed
  have tried := h.tries
  rw [if_pos owed.2] at tried
  refine ⟨?_, ?_, ?_, ?_, ?_, ?_⟩
  · simp only [Owed, outcomes', made_snoc, owed.1, Bool.true_or, true_and]
    omega
  · simp [deliveries_snoc, outcomes']
    omega
  · simp [deliveries_snoc, completions_snoc]
    omega
  · rw [outcomes', tries, tried]
    simp
  · intro pre r' post same
    rw [outcomes'] at same
    obtain rfl | ⟨front, last, rfl⟩ := post.eq_nil_or_concat
    · obtain ⟨rfl, -⟩ := List.append_inj' same rfl
      exact owed.2
    · rw [List.concat_eq_append] at same
      obtain ⟨same, -⟩ := List.append_inj' (same.trans (List.append_assoc pre (r' :: front) [last]).symm) rfl
      exact h.before pre r' front same
  · simp [made_snoc, owed.1]

/-- The last result of a request is seen to. -/
theorem Ledger.last {r : Except Fault Unit} (h : s.Ledger ms t)
    (spent : ¬Failing (outcomes t ms ++ [r]))
    (delivers : load (delivering t) s'.controller.workers + 1
      = load (delivering t) s.controller.workers)
    (holds : load (Controller.holding t) s'.controller.workers
      = load (Controller.holding t) s.controller.workers)
    (pending : s'.pending t + 1 = s.pending t) (forgotten : s'.controller.queue.retries t = 0) :
    s'.Ledger (ms ++ [.handled t r]) t := by
  apply h.handle delivers holds
  · rw [if_neg spent]
    exact pending
  · rw [if_neg spent]
    exact forgotten

/-- A request is marked as done. -/
theorem Ledger.complete (h : s.Ledger ms t) (pending : s'.pending t = s.pending t)
    (delivers : load (delivering t) s'.controller.workers = load (delivering t) s.controller.workers)
    (holds : load (Controller.holding t) s'.controller.workers + 1
      = load (Controller.holding t) s.controller.workers)
    (tries : s'.controller.queue.retries t = s.controller.queue.retries t) :
    s'.Ledger (ms ++ [.finished t]) t := by
  have completed := h.completed
  refine ⟨?_, ?_, ?_, ?_, ?_, ?_⟩
  · have same : Owed t (ms ++ [.finished t]) ↔ Owed t ms := by
      simp [Owed, made_snoc, outcomes_snoc]
    rw [pending, h.owed]
    simp only [same]
  · simpa [deliveries_snoc, outcomes_snoc, delivers] using h.delivered
  · simp [deliveries_snoc, completions_snoc, Controller.only]
    omega
  · simpa [outcomes_snoc, tries] using h.tries
  · simpa [outcomes_snoc] using h.before
  · simpa [made_snoc, deliveries_snoc] using h.unmade

/-- A request is made. -/
theorem Ledger.make (h : s.Ledger ms t) (new : made t ms = false)
    (pending : s'.pending t = s.pending t + 1)
    (delivers : load (delivering t) s'.controller.workers = load (delivering t) s.controller.workers)
    (holds : load (Controller.holding t) s'.controller.workers
      = load (Controller.holding t) s.controller.workers)
    (tries : s'.controller.queue.retries t = s.controller.queue.retries t) :
    s'.Ledger (ms ++ [.made t]) t := by
  have none := h.unmade new
  have delivered := h.delivered
  have completed := h.completed
  have owed := h.owed
  rw [if_neg (by simp [Owed, new])] at owed
  have untried : outcomes t ms = [] := List.eq_nil_of_length_eq_zero (by omega)
  refine ⟨?_, ?_, ?_, ?_, ?_, ?_⟩
  · rw [pending, owed]
    simp [Owed, made_snoc, outcomes_snoc, untried, Failing]
  · simp [deliveries_snoc, outcomes_snoc]
    omega
  · simp [deliveries_snoc, completions_snoc]
    omega
  · simpa [outcomes_snoc, tries] using h.tries
  · simpa [outcomes_snoc] using h.before
  · simp [made_snoc]

end

/-! ## Whole crews -/

section

open Controller

variable {s s' : Crew} {ms : List Mark} {m : Mark} {t : Ticket} {retries workers i : Nat}
  {p p' : Phase} {taken delayed : List Ticket} {c : Controller}

theorem Sound.holds (h : s.Sound retries workers ms) (hp : s.controller.phase i = p)
    (held : p.ticket? = some t) : t ∈ s.controller.queue.shared.queue.processing := by
  have worker : p ∈ s.controller.workers := by
    cases hw : s.controller.workers[i]? with
    | none =>
      rw [phase, hw] at hp
      subst hp
      cases held
    | some p' =>
      rw [phase, hw] at hp
      subst hp
      exact List.mem_of_getElem? hw
  have one : holding t p = 1 := by
    rw [holding, held]
    exact only_self t
  have some : 0 < load (only t) s.controller.queue.shared.queue.processing := by
    have := le_load (w := holding t) worker
    rw [h.held]
    omega
  exact mem_of_load some

theorem Sound.pending_move (h : s.Sound retries workers ms)
    (move : Move s.controller i p p' taken delayed c) (hp : s.controller.phase i = p) (t : Ticket) :
    pending ⟨c, s.later ++ delayed⟩ t + load (only t) taken + delivering t p
      = s.pending t + load (only t) delayed + delivering t p' := by
  have worker := move.load_workers hp (delivering t)
  have dirty := move.shifts.load_dirty h.orderly (only t)
  simp only [pending, load_append]
  omega

/-- A move that is not about a request does nothing about it. -/
theorem unconcerned (move : Move s.controller i p p' taken delayed c)
    (standard : s.controller.queue.limiter.IsStandard) (other : (p.mark p').ticket? ≠ some t) :
    delivering t p' = delivering t p ∧ holding t p' = holding t p ∧ load (only t) taken = 0
      ∧ load (only t) delayed = 0 ∧ c.queue.retries t = s.controller.queue.retries t := by
  have none {u : Ticket} (about : (p.mark p').ticket? = some u) : u ≠ t ∧ only t u = 0 := by
    have ne : u ≠ t := fun same => other (same ▸ about)
    exact ⟨ne, only_of_ne ne⟩
  cases move with
  | pass passes => cases passes <;> exact ⟨rfl, rfl, rfl, rfl, rfl⟩
  | get =>
    obtain ⟨-, none⟩ := none rfl
    exact ⟨none, none, none, rfl, rfl⟩
  | succeed u =>
    obtain ⟨ne, none⟩ := none rfl
    exact ⟨none.symm, rfl, rfl, rfl, (RateQueue.retries_forget standard u t).trans (if_neg ne.symm)⟩
  | again u cause clock few =>
    obtain ⟨ne, none⟩ := none rfl
    exact ⟨none.symm, rfl, rfl, none, RateQueue.retries_nextDelay_of_ne standard clock ne.symm⟩
  | drop u cause many =>
    obtain ⟨ne, none⟩ := none rfl
    exact ⟨none.symm, rfl, rfl, rfl, (RateQueue.retries_forget standard u t).trans (if_neg ne.symm)⟩
  | finish u =>
    obtain ⟨-, none⟩ := none rfl
    exact ⟨rfl, none.symm, rfl, rfl, rfl⟩
  | _ => exact ⟨rfl, rfl, rfl, rfl, rfl⟩

theorem made_move (move : Move s.controller i p p' taken delayed c) :
    made t (ms ++ [p.mark p']) = made t ms := by
  cases move with
  | pass passes => cases passes <;> simp [made_snoc, Phase.mark]
  | _ => simp [made_snoc, Phase.mark]

theorem Sound.ledger_move (h : s.Sound retries workers ms)
    (move : Move s.controller i p p' taken delayed c) (hp : s.controller.phase i = p) (t : Ticket) :
    Ledger ⟨c, s.later ++ delayed⟩ (ms ++ [p.mark p']) t := by
  have pending := h.pending_move move hp t
  have worker := move.load_workers hp (delivering t)
  have holder := move.load_workers hp (holding t)
  by_cases about : (p.mark p').ticket? = some t
  · cases move with
    | pass passes => cases passes <;> cases about
    | @get _ u rest found unchecked took =>
      cases about
      have waits : t ∈ s.controller.queue.shared.queue.dirty :=
        ((h.orderly.mem_waiting t).1 (by simp [(WorkQueue.take?_eq_some took).1])).1
      have pos := load_of_mem waits
      simp only [delivering, holding, Phase.ticket?, only_self, load_cons, load_nil, Nat.add_zero]
        at pending worker holder
      refine (h.ledger t).deliver ?_ (Nat.add_right_cancel pending) worker holder rfl
      unfold Crew.pending
      omega
    | succeed u =>
      cases about
      simp only [delivering, holding, Phase.ticket?, only_self, load_nil, Nat.add_zero]
        at pending worker holder
      have spent : ¬Failing (outcomes t ms ++ [.ok ()]) := fun failing =>
        Bool.false_ne_true (failing_snoc.1 failing).2.2.symm
      exact (h.ledger t).last spent worker (Nat.add_right_cancel holder) pending
        ((RateQueue.retries_forget h.standard t t).trans (if_pos rfl))
    | again u cause clock few =>
      cases about
      simp only [delivering, holding, Phase.ticket?, only_self, load_cons, load_nil, Nat.add_zero]
        at pending worker holder
      obtain ⟨failing, tries⟩ := (h.ledger t).trying (by omega)
      have again : Failing (outcomes t ms ++ [.error cause]) :=
        failing_snoc.2 ⟨tries ▸ few, failing.2, rfl⟩
      refine (h.ledger t).handle worker (Nat.add_right_cancel holder) ?_ ?_
      · rw [if_pos again]
        exact pending
      · obtain ⟨-, -, -, counted⟩ := RateQueue.nextDelay_spec h.standard clock t
        have fits : s.controller.queue.retries t + 1 ≤ Tally.maxCount :=
          Nat.le_trans (Nat.succ_le_succ few) (by decide)
        rw [if_pos again]
        exact counted.trans (Nat.min_eq_left fits)
    | drop u cause many =>
      cases about
      simp only [delivering, holding, Phase.ticket?, only_self, load_nil, Nat.add_zero]
        at pending worker holder
      obtain ⟨-, tries⟩ := (h.ledger t).trying (by omega)
      have spent : ¬Failing (outcomes t ms ++ [.error cause]) := fun failing =>
        Nat.not_le_of_lt (tries ▸ many) (failing_snoc.1 failing).1
      exact (h.ledger t).last spent worker (Nat.add_right_cancel holder) pending
        ((RateQueue.retries_forget h.standard t t).trans (if_pos rfl))
    | finish u =>
      cases about
      simp only [delivering, holding, Phase.ticket?, only_self, load_nil, Nat.add_zero]
        at pending worker holder
      exact (h.ledger t).complete pending worker holder rfl
    | _ => cases about
  · obtain ⟨delivers, holds, none, undelayed, tries⟩ := unconcerned move h.standard about
    refine (h.ledger t).other about ?_ ?_ ?_ tries
    · omega
    · show load _ c.workers = _
      omega
    · show load _ c.workers = _
      omega

theorem Sound.move (h : s.Sound retries workers ms)
    (move : Move s.controller i p p' taken delayed c) (hp : s.controller.phase i = p)
    (locks : c.LocksSound) :
    Sound retries workers (ms ++ [p.mark p']) ⟨c, s.later ++ delayed⟩ := by
  have shifts := move.shifts
  have held := fun t => h.holds (t := t) hp
  refine ⟨move.conflictRetries.1.trans h.conflictRetries, ?_, shifts.closed.trans h.open_, ?_,
    shifts.orderly h.orderly held, locks, fun t => ?_, fun t made => ?_, h.ledger_move move hp⟩
  · show c.workers.length = workers
    rw [move.workers, List.length_set]
    exact h.workers
  · exact move.standard h.standard
  · have processing := shifts.load_processing h.orderly held t
    have holder := move.load_workers hp (holding t)
    have := h.held t
    show load _ c.queue.shared.queue.processing = load _ c.workers
    omega
  · rw [made_move move] at made
    show t.number < c.made
    rw [move.conflictRetries.2]
    exact h.numbers t made

/-- A worker goes on with an answer. -/
theorem Sound.act (h : s.Sound retries workers ms) {lock : Nat} {u : Ticket} {action : Action}
    {k : action.Answer → Control (Except Fault Unit)}
    (hp : s.controller.phase i = .working u lock (.act action k)) (answer : action.Answer) :
    Sound retries workers (ms ++ [.other])
      ⟨s.controller.enter i (.working u lock (k answer)), s.later⟩ := by
  have same (w : Phase → Nat) (hw : w (.working u lock (k answer)) = w (.working u lock (.act action k))) :
      load w (s.controller.enter i (.working u lock (k answer))).workers
        = load w s.controller.workers := by
    have := load_set_phase hp nofun (.working u lock (k answer)) w
    show load w (s.controller.workers.set i _) = _
    omega
  have locks := h.locks.step (.act (turn_working 0 hp) hp answer)
  refine ⟨h.conflictRetries, ?_, h.open_, h.standard, h.orderly, locks, fun t => ?_,
    fun t made => h.numbers t (by simpa [made_snoc] using made), fun t => ?_⟩
  · exact List.length_set.trans h.workers
  · exact (h.held t).trans (same _ rfl).symm
  · refine (h.ledger t).other nofun ?_ (same _ rfl) (same _ rfl) rfl
    simp only [Crew.pending, same (delivering t) rfl]
    rfl

/-- A request is added that is not dirty, be it a new one or one whose delay is over. -/
theorem Sound.load_add (h : s.Sound retries workers ms) {u : Ticket}
    (absent : load (only u) s.controller.queue.shared.queue.dirty = 0) (t : Ticket) :
    load (only t) (s.controller.queue.add u).shared.queue.dirty
      = load (only t) s.controller.queue.shared.queue.dirty + only t u := by
  have absent : u ∉ s.controller.queue.shared.queue.dirty := fun mem =>
    Nat.ne_of_gt (load_of_mem mem) absent
  have accepts : s.controller.queue.shared.queue.accepts u = true :=
    WorkQueue.accepts_iff.2 ⟨h.open_, absent⟩
  simp only [RateQueue.add, SharedQueue.queue_add, WorkQueue.load_add, accepts, if_true]

/-- Nobody has made the request before that is made next. -/
theorem Sound.new (h : s.Sound retries workers ms) (request : Request) :
    made (s.controller.ticket request) ms = false := by
  cases known : made (s.controller.ticket request) ms with
  | false => rfl
  | true => exact absurd (h.numbers _ known) (Nat.lt_irrefl _)

theorem Sound.enqueue (h : s.Sound retries workers ms) (request : Request) :
    Sound retries workers (ms ++ [.made (s.controller.ticket request)])
      ⟨s.controller.enqueue request, s.later⟩ := by
  have new := h.new request
  have none := (h.ledger (s.controller.ticket request)).owed
  rw [if_neg (by simp [Owed, new])] at none
  have dirty := h.load_add (u := s.controller.ticket request) (by unfold Crew.pending at none; omega)
  have pending (t : Ticket) : Crew.pending ⟨s.controller.enqueue request, s.later⟩ t
      = s.pending t + only t (s.controller.ticket request) := by
    have := dirty t
    simp only [Crew.pending, Controller.enqueue] at this ⊢
    omega
  refine ⟨h.conflictRetries, h.workers, ?_, h.standard, ?_, h.locks.step (.enqueue _ _), fun t => ?_,
    fun t known => ?_, fun t => ?_⟩
  · simpa [Controller.enqueue, RateQueue.add] using h.open_
  · simpa [Controller.enqueue, RateQueue.add] using WorkQueue.orderly_add h.orderly _
  · simpa [Controller.enqueue, RateQueue.add] using h.held t
  · show t.number < s.controller.made + 1
    obtain known | same := Bool.or_eq_true_iff.1 (made_snoc.symm.trans known)
    · exact Nat.lt_succ_of_lt (h.numbers t known)
    · rw [← of_decide_eq_true same]
      exact Nat.lt_succ_self _
  · have pending := pending t
    by_cases same : s.controller.ticket request = t
    · subst same
      rw [only_self] at pending
      exact (h.ledger _).make new pending rfl rfl rfl
    · rw [only_of_ne same] at pending
      exact (h.ledger t).other (fun about => same (Option.some.inj about)) pending rfl rfl rfl

theorem Sound.due (h : s.Sound retries workers ms) {front back : List Ticket} {u : Ticket}
    (later : s.later = front ++ u :: back) :
    Sound retries workers (ms ++ [.other]) ⟨s.controller.add u, front ++ back⟩ := by
  have delayed (t : Ticket) : load (only t) s.later = load (only t) (front ++ back) + only t u := by
    simp [later]
    omega
  have one := only_self u
  have some := (h.ledger u).owed_of_pos (by have := delayed u; unfold Crew.pending; omega)
  have dirty := h.load_add (u := u) (by
    have := delayed u
    have := some.2
    unfold Crew.pending at this
    omega)
  refine ⟨h.conflictRetries, h.workers, ?_, h.standard, ?_, h.locks.step (.add _ _), fun t => ?_,
    fun t known => h.numbers t (by simpa [made_snoc] using known), fun t => ?_⟩
  · simpa [Controller.add, RateQueue.add] using h.open_
  · simpa [Controller.add, RateQueue.add] using WorkQueue.orderly_add h.orderly _
  · simpa [Controller.add, RateQueue.add] using h.held t
  · refine (h.ledger t).other nofun ?_ rfl rfl rfl
    have := dirty t
    have := delayed t
    simp only [Crew.pending, Controller.add] at *
    omega

theorem Sound.step (h : s.Sound retries workers ms) (step : s.Step m s') :
    s'.Sound retries workers (ms ++ [m]) := by
  have locks := step.locks h.locks
  cases h.does step with
  | move before move => exact h.move move before locks
  | act before answer => exact h.act before answer
  | enqueue request => exact h.enqueue request
  | due later => exact h.due later

theorem sound_start (retries workers : Nat) : (start retries workers).Sound retries workers [] := by
  have away (w : Phase → Nat) (hw : w .seeking = 0) :
      load w (start retries workers).controller.workers = 0 := by
    simp [start, ofWorkers, load_replicate, hw]
  refine ⟨rfl, by simp [start, ofWorkers], rfl, ⟨_, _, rfl⟩, WorkQueue.orderly_empty,
    locksSound_ofWorkers retries workers, fun t => (away _ rfl).symm, fun t made => ?_, fun t => ?_⟩
  · cases made
  refine ⟨?_, ?_, ?_, ?_, ?_, ?_⟩
  · simp only [pending, away (delivering t) rfl]
    rfl
  · rw [away (delivering t) rfl]
    rfl
  · rw [away (holding t) rfl]
    rfl
  · rfl
  · intro pre r post same
    simp [outcomes] at same
  · exact fun _ => rfl

theorem sound_of_run (run : Run Crew.Step (start retries workers) ms s) :
    s.Sound retries workers ms :=
  run.invariant_with (fun sound step => sound.step step) (sound_start retries workers)

end

end Crew

end NetAttach
