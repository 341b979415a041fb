-- SUMMARY: Workers leave only after the queue was shut down, and not before all that it took in was delivered.
import NetAttach.Proofs.Moves
import NetAttach.Proofs.WorkQueue
import Mathlib.Data.List.Nodup
import Mathlib.Data.List.ReduceOption

/-!
# Shutting down

The workers of a controller take requests from the queue and mark them as done, while
requests are added and the queue is shut down at any moment. Each step of the
controller is a step of `QueueInUse` or none, `Controller.Mirrors`, so that what every
run of a queue keeps holds here too. A worker leaves if it finds the queue shut down
and nothing that waits. What is held back then is held by another worker, which comes
back to the queue after it has marked it as done.
-/

namespace NetAttach

/-- What a worker does to the queue when it goes from one phase to another. -/
def Phase.queueAct? (i : Nat) : Phase → Phase → Option (QueueAct Ticket)
  | .listed, .asking t => some (.get i t)
  | .finishing t, _ => some (.done i t)
  | .seeking, _ | .listed, _ => some (.wait i)
  | _, _ => none

namespace Controller

variable {c c' : Controller} {i clock : Nat} {p p' : Phase} {effects : List Effect}

/-! ## Steps at the queue -/

/-- One step of anyone, with what it does to the queue. -/
inductive QueueStep : Controller → Option (QueueAct Ticket) → Controller → Prop where
  | move {c c' : Controller} {clock i : Nat} {effects : List Effect}
    (turn : c.turn clock i = .moves c' effects) :
    QueueStep c ((c.phase i).queueAct? i (c'.phase i)) c'
  | act {c : Controller} {clock i : Nat} {action : Action} {next : action.Answer → Controller}
    (turn : c.turn clock i = .acts action next) (answer : action.Answer) :
    QueueStep c none (next answer)
  | enqueue (c : Controller) (request : Request) :
    QueueStep c (some (.add (c.ticket request))) (c.enqueue request)
  /-- A request is added that was made before, be it by a delay that is over or by anyone else. -/
  | add (c : Controller) (t : Ticket) : QueueStep c (some (.add t)) (c.add t)
  | shutDown (c : Controller) : QueueStep c (some .shutDown) c.shutDown

/-- A step on record, with the queue before and after it if it does anything to the queue. -/
def Recorded (c : Controller) (e : Option (QueueEvent Ticket)) (c' : Controller) : Prop :=
  ∃ a, QueueStep c a c'
    ∧ e = a.map fun act => ⟨act, c.queue.shared.queue, c'.queue.shared.queue⟩

theorem QueueStep.record {a : Option (QueueAct Ticket)} (step : QueueStep c a c') :
    Recorded c (a.map fun act => ⟨act, c.queue.shared.queue, c'.queue.shared.queue⟩) c' :=
  ⟨a, step, rfl⟩

/-- What a worker does to a queue, be it open or shut down, on its way from a phase to the next. -/
inductive Serves (q : SharedQueue Ticket) (i : Nat) : Phase → Phase → SharedQueue Ticket → Prop where
  | register : Serves q i .seeking .listed (q.register i)
  | restart : Serves q i .listed .seeking (q.drop i)
  | vain (vain : (q.check i).1 = none) : Serves q i .listed .listed (q.check i).2
  | get {t : Ticket} (got : (q.check i).1 = some (.item t)) :
    Serves q i .listed (.asking t) (q.check i).2
  | leave (closed : (q.check i).1 = some .closed) : Serves q i .listed .left (q.check i).2
  /-- It keeps what it holds, and leaves the queue alone. -/
  | pass {p p' : Phase} {t : Ticket} (before : p.ticket? = some t) (after : p'.ticket? = some t)
    (apart : p.queueAct? i p' = none) : Serves q i p p' q
  | finish (t : Ticket) : Serves q i (.finishing t) .seeking (q.done t)

/-- A failure is not added at once, since it has a delay or the queue is shut down. -/
theorem shared_settle (standard : c.queue.limiter.IsStandard) (clock : Nat) (t : Ticket)
    (result : Except Fault Unit) :
    (c.settle clock t result).1.queue.shared = c.queue.shared
      ∧ (c.settle clock t result).1.queue.limiter.IsStandard := by
  cases result with
  | ok => exact ⟨rfl, RateQueue.isStandard_forget standard t⟩
  | error cause =>
    obtain ⟨positive, later, same, -⟩ := RateQueue.nextDelay_spec standard clock t
    unfold settle
    dsimp only
    split
    · have apart : ((c.queue.nextDelay clock t).2.addAfter t (c.queue.nextDelay clock t).1).2
          = (c.queue.nextDelay clock t).2 := by
        unfold RateQueue.addAfter
        rw [if_neg (Nat.ne_of_gt positive)]
        split <;> rfl
      rw [apart]
      exact ⟨same, later⟩
    · exact ⟨rfl, RateQueue.isStandard_forget standard t⟩

theorem serves_of_look (hp : c.phase i = .listed) (h : c.look i = .moves c' effects) :
    ∃ p, Serves c.queue.shared i .listed p c'.queue.shared ∧ c'.workers = c.workers.set i p
      ∧ c'.queue.limiter = c.queue.limiter := by
  unfold look at h
  split at h
  · cases h
  · split at h
    · cases h
    · split at h
      · cases h
        exact ⟨_, .restart, rfl, rfl⟩
      · dsimp only at h
        split at h
        · next vain =>
          cases h
          have same : c.workers = c.workers.set i .listed := congrArg workers (enter_phase hp).symm
          exact ⟨_, .vain vain, same, rfl⟩
        · next got =>
          cases h
          exact ⟨_, .get got, rfl, rfl⟩
        · next closed =>
          cases h
          exact ⟨_, .leave closed, rfl, rfl⟩

/-- All that a step without an action does to the queue and to the phases. -/
theorem serves_of_turn (standard : c.queue.limiter.IsStandard)
    (h : c.turn clock i = .moves c' effects) :
    ∃ p, Serves c.queue.shared i (c.phase i) p c'.queue.shared ∧ c'.workers = c.workers.set i p
      ∧ c'.queue.limiter.IsStandard := by
  generalize hp : c.phase i = before at h
  unfold turn at h
  rw [hp] at h
  cases before with
  | seeking =>
    cases h
    exact ⟨_, .register, rfl, standard⟩
  | listed =>
    obtain ⟨p, serves, workers, same⟩ := serves_of_look hp h
    exact ⟨p, serves, workers, same ▸ standard⟩
  | asking t =>
    cases h
    exact ⟨_, .pass (t := t) rfl rfl rfl, rfl, standard⟩
  | lined t lock =>
    dsimp only at h
    split at h
    · cases h
      exact ⟨_, .pass (t := t) rfl rfl rfl, rfl, standard⟩
    · cases h
  | working t lock rest =>
    cases rest with
    | act action next => cases h
    | done result =>
      cases h
      exact ⟨_, .pass (t := t) rfl rfl rfl, rfl, standard⟩
  | sweeping t result =>
    cases h
    exact ⟨_, .pass (t := t) rfl rfl rfl, rfl, standard⟩
  | settling t result =>
    obtain ⟨same, later⟩ := shared_settle standard clock t result
    obtain ⟨-, workers, -⟩ := locks_settle c clock t result
    have passes : Serves c.queue.shared i (.settling t result) (.finishing t)
        (c.settle clock t result).1.queue.shared := same ▸ .pass (t := t) rfl rfl rfl
    cases h
    exact ⟨_, passes, congrArg (List.set · i _) workers, later⟩
  | finishing t =>
    cases h
    exact ⟨_, .finish t, rfl, standard⟩
  | left => cases h

theorem Serves.ne_left {q r : SharedQueue Ticket} (h : Serves q i p p' r) : p ≠ .left := by
  cases h with
  | pass before => rintro rfl; cases before
  | _ => exact nofun

theorem phase_set (same : c'.workers = c.workers.set i p') (here : c.phase i ≠ .left) (j : Nat) :
    c'.phase j = if j = i then p' else c.phase j := by
  have entered := phase_enter (d := c) rfl here p' j
  unfold Controller.phase at entered ⊢
  rw [same]
  exact entered

/-! ## A controller is a queue in use -/

/-- The queue of a controller, and what its workers hold. -/
structure Mirrors (c : Controller) (s : QueueInUse Ticket) : Prop where
  shared : s.shared = c.queue.shared
  held : ∀ i t, (i, t) ∈ s.held ↔ (c.phase i).ticket? = some t
  standard : c.queue.limiter.IsStandard

theorem mirrors_ofWorkers (retries workers : Nat) :
    (ofWorkers retries workers).Mirrors QueueInUse.start := by
  refine ⟨rfl, fun i t => ?_, _, _, rfl⟩
  simp [ticket?_ofWorkers, QueueInUse.start]

/-- Steps of a worker that change nothing about what it holds. -/
theorem Mirrors.keep {s : QueueInUse Ticket} (h : c.Mirrors s) {q : SharedQueue Ticket}
    (shared : c'.queue.shared = q) (phase : ∀ j, c'.phase j = if j = i then p' else c.phase j)
    (same : p'.ticket? = (c.phase i).ticket?) (standard : c'.queue.limiter.IsStandard) :
    c'.Mirrors { s with shared := q } := by
  refine ⟨shared.symm, fun j t => ?_, standard⟩
  rw [phase j, h.held]
  split
  · next here => rw [same, here]
  · rfl

/-- A step of a controller is a step of the queue in use, or none. -/
theorem Mirrors.step {s : QueueInUse Ticket} (h : c.Mirrors s) (sound : s.Sound)
    {a : Option (QueueAct Ticket)} (step : QueueStep c a c') :
    (a = none ∧ c'.Mirrors s)
      ∨ ∃ act s', a = some act ∧ QueueInUse.Step s act s' ∧ c'.Mirrors s' := by
  have nodup : s.held.Nodup := List.Nodup.of_map Prod.snd sound.held_nodup
  obtain ⟨shared, held⟩ := s
  obtain rfl : shared = c.queue.shared := h.shared
  cases step with
  | @move _ clock i effects turn =>
    obtain ⟨p, serves, workers, standard⟩ := serves_of_turn h.standard turn
    have phases := phase_set workers serves.ne_left
    have after : c'.phase i = p := by simp [phases]
    rw [after]
    generalize hp : c.phase i = before at serves
    generalize hq : c'.queue.shared = q at serves
    cases serves with
    | register => exact .inr ⟨_, _, rfl, .register _ i, h.keep hq phases (by rw [hp]; rfl) standard⟩
    | restart => exact .inr ⟨_, _, rfl, .restart _ i, h.keep hq phases (by rw [hp]; rfl) standard⟩
    | vain vain =>
      exact .inr ⟨_, _, rfl, .look (by simp [vain]), h.keep hq phases (by rw [hp]) standard⟩
    | leave closed =>
      exact .inr ⟨_, _, rfl, .look (by simp [closed]), h.keep hq phases (by rw [hp]; rfl) standard⟩
    | pass before after apart =>
      exact .inl ⟨apart, h.keep hq phases (by rw [hp, before, after]) standard⟩
    | @get t got =>
      refine .inr ⟨_, _, rfl, .get got, hq.symm, fun j u => ?_, standard⟩
      have free : (i, u) ∉ held := fun mem => by
        have := (h.held i u).1 mem
        rw [hp] at this
        cases this
      rw [phases j, List.mem_cons, h.held]
      split
      · next here => subst here; simp [hp, Phase.ticket?, eq_comm]
      · next other => simp [other]
    | finish t =>
      have holds : (i, t) ∈ held := (h.held i t).2 (by rw [hp]; rfl)
      refine .inr ⟨_, _, rfl, .done holds, hq.symm, fun j u => ?_, standard⟩
      rw [phases j, nodup.mem_erase_iff, h.held]
      split
      · next here => subst here; simp [hp, Phase.ticket?, eq_comm]
      · next other => simp [other]
  | @act clock i action next turn answer =>
    obtain ⟨t, lock, k, hp, rfl⟩ := turn_acts turn
    have here : c.phase i ≠ .left := by simp [hp]
    exact .inl ⟨rfl, h.keep rfl (phase_enter rfl here _) (by rw [hp]; rfl) h.standard⟩
  | enqueue request => exact .inr ⟨_, _, rfl, .add _ _, rfl, h.held, h.standard⟩
  | add t => exact .inr ⟨_, _, rfl, .add _ t, rfl, h.held, h.standard⟩
  | shutDown => exact .inr ⟨_, _, rfl, .shutDown _, rfl, h.held, h.standard⟩

theorem mirrored_of_run {retries workers : Nat} {es : List (Option (QueueEvent Ticket))}
    (run : Run Recorded (ofWorkers retries workers) es c) :
    ∃ s, Run QueueInUse.Recorded QueueInUse.start es.reduceOption s ∧ c.Mirrors s := by
  refine run.invariant_with (I := fun es c => ∃ s,
    Run QueueInUse.Recorded QueueInUse.start es.reduceOption s ∧ c.Mirrors s) ?_
    ⟨_, .nil, mirrors_ofWorkers retries workers⟩
  rintro es c _ c' ⟨s, run, mirrors⟩ ⟨a, step, rfl⟩
  rw [List.reduceOption_append]
  obtain ⟨rfl, next⟩ | ⟨act, s', rfl, step', mirrors'⟩ :=
    mirrors.step (QueueInUse.Sound.run run) step
  · exact ⟨s, by simpa using run, next⟩
  · have before : s.queue = c.queue.shared.queue := congrArg SharedQueue.queue mirrors.shared
    have after : s'.queue = c'.queue.shared.queue := congrArg SharedQueue.queue mirrors'.shared
    exact ⟨s', run.snoc ⟨step', before.symm, after.symm⟩, mirrors'⟩

/-! ## Who has left -/

theorem Serves.closed {q r : SharedQueue Ticket} (h : Serves q i p p' r) :
    r.queue.closed = q.queue.closed := by
  have checked : (q.check i).2.queue.closed = q.queue.closed := by
    obtain ⟨x, -, took⟩ | ⟨-, -, same⟩ := q.queue_check i
    · exact (WorkQueue.take?_eq_some took).2.2.2
    · rw [same]
  cases h with
  | register => simp
  | restart => rfl
  | pass => rfl
  | finish t => simp [WorkQueue.done]
  | _ => exact checked

/-- A worker leaves when it finds the queue shut down and nothing that waits. -/
theorem Serves.left {q r : SharedQueue Ticket} (h : Serves q i p .left r) :
    q.queue.closed = true ∧ r.queue.waiting = [] := by
  cases h with
  | leave closed =>
    obtain ⟨x, got, -⟩ | ⟨-, empty, same⟩ := q.queue_check i
    · rw [got] at closed
      cases closed
    · refine ⟨?_, same ▸ WorkQueue.take?_eq_none.1 empty⟩
      unfold SharedQueue.check at closed
      rw [empty] at closed
      dsimp only at closed
      split at closed
      · assumption
      · cases closed
  | pass _ after => cases after

/-- Workers leave a queue that is shut down, and the last one leaves nothing that waits. -/
structure Departed (c : Controller) : Prop where
  closed : ∀ i < c.workers.length, c.phase i = .left → c.queue.shared.queue.closed = true
  empty : (∀ i, c.phase i = .left) → c.queue.shared.queue.waiting = []

theorem departed_ofWorkers (retries workers : Nat) : (ofWorkers retries workers).Departed := by
  refine ⟨fun i hi left => ?_, fun _ => rfl⟩
  have seeking : (ofWorkers retries workers).phase i = .seeking := by
    have hi : i < workers := by simpa [ofWorkers] using hi
    rw [phase_ofWorkers, if_pos hi]
  rw [seeking] at left
  cases left

/-- What is added after all have left does not wait, since the queue is shut down. -/
private theorem Departed.add (h : c.Departed) (some : 0 < c.workers.length) (t : Ticket) :
    (c.add t).Departed := by
  have same : (c.add t).queue.shared.queue = c.queue.shared.queue.add t := SharedQueue.queue_add _ t
  refine ⟨fun i hi left => ?_, fun all => ?_⟩
  · rw [same, WorkQueue.closed_add]
    exact h.closed i hi left
  · have closed := h.closed 0 some (all 0)
    rw [same, WorkQueue.waiting_add (by simp [WorkQueue.enqueues, WorkQueue.accepts, closed])]
    exact h.empty all

theorem Departed.step (h : c.Departed) (standard : c.queue.limiter.IsStandard)
    (some : 0 < c.workers.length) {a : Option (QueueAct Ticket)} (step : QueueStep c a c') :
    c'.Departed ∧ c'.workers.length = c.workers.length := by
  cases step with
  | @move _ clock i effects turn =>
    obtain ⟨p, serves, workers, -⟩ := serves_of_turn standard turn
    have phases := phase_set workers serves.ne_left
    refine ⟨⟨fun j hj left => ?_, fun all => ?_⟩, by rw [workers, List.length_set]⟩
    · rw [serves.closed]
      rw [phases j] at left
      split at left
      · subst left
        exact serves.left.1
      · rw [workers, List.length_set] at hj
        exact h.closed j hj left
    · have left := all i
      rw [phases i, if_pos rfl] at left
      subst left
      exact serves.left.2
  | @act clock i action next turn answer =>
    obtain ⟨t, lock, k, hp, rfl⟩ := turn_acts turn
    have here : c.phase i ≠ .left := by simp [hp]
    have phases := phase_enter (d := c) rfl here (.working t lock (k answer))
    refine ⟨⟨fun j hj left => ?_, fun all => ?_⟩, by simp [enter]⟩
    · rw [phases j] at left
      split at left
      · cases left
      · exact h.closed j (by simpa [enter] using hj) left
    · have left := all i
      rw [phases i, if_pos rfl] at left
      cases left
  | enqueue request =>
    have added := h.add some (c.ticket request)
    exact ⟨⟨added.closed, added.empty⟩, rfl⟩
  | add t => exact ⟨h.add some t, rfl⟩
  | shutDown => exact ⟨⟨fun _ _ _ => rfl, h.empty⟩, rfl⟩

theorem departed_of_run {retries workers : Nat} (some : 0 < workers)
    {es : List (Option (QueueEvent Ticket))}
    (run : Run Recorded (ofWorkers retries workers) es c) :
    c.Departed ∧ c.workers.length = workers := by
  refine (run.invariant (I := fun c => c.queue.limiter.IsStandard ∧ c.Departed
    ∧ c.workers.length = workers) ?_ ⟨⟨_, _, rfl⟩, departed_ofWorkers retries workers, ?_⟩).2
  · rintro c _ c' ⟨standard, departed, length⟩ ⟨a, step, -⟩
    obtain ⟨departed', length'⟩ := departed.step standard (length ▸ some) step
    refine ⟨?_, departed', length'.trans length⟩
    cases step with
    | move turn =>
      obtain ⟨_, _, -, later⟩ := serves_of_turn standard turn
      exact later
    | act turn =>
      obtain ⟨_, _, _, -, rfl⟩ := turn_acts turn
      exact standard
    | _ => exact standard
  · simp [ofWorkers]

theorem isOver_iff : c.isOver = true ↔ ∀ i, c.phase i = .left := by
  unfold isOver phase
  rw [List.all_eq_true]
  constructor
  · intro all i
    cases hi : c.workers[i]? with
    | none => rfl
    | some p =>
      have left := all p (List.mem_of_getElem? hi)
      cases p <;> first | rfl | cases left
  · intro all p mem
    obtain ⟨i, hi, rfl⟩ := List.getElem_of_mem mem
    have left := all i
    rw [List.getElem?_eq_getElem hi] at left
    rw [show c.workers[i] = .left from left]

end Controller

/-! ## After the queue was shut down -/

namespace QueueInUse

variable {α : Type} [DecidableEq α] {s t : QueueInUse α}

theorem Recorded.closed {e : QueueEvent α} (h : Recorded s e t) :
    t.queue.closed = true ↔ s.queue.closed = true ∨ e.act = .shutDown := by
  obtain ⟨act, before, after⟩ := e
  obtain ⟨step, rfl, rfl⟩ := h
  have spec := step.spec
  cases act with
  | add x => simp [spec.1]
  | get w x => simp [(WorkQueue.take?_eq_some spec.1).2.2.2]
  | wait w => simp [spec.1]
  | done w x => simp [spec.2.1, WorkQueue.done]
  | shutDown => simp [spec.1, WorkQueue.shutDown]

/-- A queue is shut down if someone shut it down. -/
theorem closed_of_run {es : List (QueueEvent α)} (run : Run Recorded s es t) :
    t.queue.closed = true ↔ s.queue.closed = true ∨ ∃ e ∈ es, e.act = .shutDown := by
  refine run.invariant_with (I := fun es t => t.queue.closed = true ↔
    s.queue.closed = true ∨ ∃ e ∈ es, e.act = .shutDown) ?_ (by simp)
  intro es t e u ih step
  rw [step.closed, ih]
  simp [or_assoc, or_and_right, exists_or]

theorem Recorded.queue_of_shutDown {e : QueueEvent α} (h : Recorded s e t)
    (shut : e.act = .shutDown) : t.queue = e.before.shutDown := by
  obtain ⟨act, before, after⟩ := e
  obtain ⟨step, rfl, rfl⟩ := h
  cases shut
  exact step.spec.1

/-- A queue that is shut down takes nothing in, and loses only what is got. -/
theorem Recorded.shut {e : QueueEvent α} (sound : s.Sound) (h : Recorded s e t)
    (closed : s.queue.closed = true) :
    (∀ x, e.act = .add x → e.after = e.before)
      ∧ (e.delivered?.toList ++ t.queue.dirty).Perm s.queue.dirty := by
  obtain ⟨act, before, after⟩ := e
  obtain ⟨step, rfl, rfl⟩ := h
  have spec := step.spec
  have idle : ∀ x, act = .add x → t.queue = s.queue := by
    rintro x rfl
    obtain ⟨added, -⟩ := spec
    have same : s.queue.add x = s.queue := by
      unfold WorkQueue.add
      rw [if_neg (by simp [WorkQueue.accepts, closed])]
    exact added.trans same
  refine ⟨idle, ?_⟩
  cases act with
  | add x => exact idle x rfl ▸ .refl _
  | get w x =>
    obtain ⟨took, -⟩ := spec
    obtain ⟨waits, dirty, -⟩ := WorkQueue.take?_eq_some took
    have mem : x ∈ s.queue.dirty := ((sound.orderly.mem_waiting x).1 (by simp [waits])).1
    rw [dirty]
    exact (List.perm_cons_erase mem).symm
  | wait w => exact spec.1 ▸ .refl _
  | done w x => exact spec.2.1 ▸ .refl _
  | shutDown => exact spec.1 ▸ .refl _

/-- What is got after the queue was shut down was dirty before. -/
theorem shut_of_run {es : List (QueueEvent α)} (sound : s.Sound) (closed : s.queue.closed = true)
    (run : Run Recorded s es t) :
    (∀ e ∈ es, ∀ x, e.act = .add x → e.after = e.before)
      ∧ (deliveries es ++ t.queue.dirty).Perm s.queue.dirty := by
  refine (run.invariant_with (I := fun es t => (t.Sound ∧ t.queue.closed = true)
    ∧ (∀ e ∈ es, ∀ x, e.act = .add x → e.after = e.before)
      ∧ (deliveries es ++ t.queue.dirty).Perm s.queue.dirty) ?_ ⟨⟨sound, closed⟩, nofun, .refl _⟩).2
  rintro es t e u ⟨⟨sound, closed⟩, idle, account⟩ step
  obtain ⟨still, less⟩ := step.shut sound closed
  refine ⟨⟨sound.step step.1, step.closed.2 (.inl closed)⟩, ?_, ?_⟩
  · intro e' mem
    obtain mem | rfl := by simpa using mem
    · exact idle e' mem
    · exact still
  · have one : deliveries [e] = e.delivered?.toList := by
      cases got : e.delivered? <;> simp [deliveries, got]
    have split : deliveries (es ++ [e]) = deliveries es ++ deliveries [e] := List.filterMap_append
    rw [split, one, List.append_assoc]
    exact (less.append_left _).trans account

end QueueInUse

namespace Controller

/-! ## Shutting down drains the queue -/

/-- However the steps of the workers, adds, delayed adds and the shutdown are interleaved: nobody
leaves before the queue was shut down. When all have left, nothing waits, is dirty or is processed,
and each request that was added to the open queue was delivered after that. After the shutdown adds
change nothing, and what is delivered was dirty before it. -/
theorem shutdown_drains {retries workers : Nat} (some : 0 < workers)
    {es : List (Option (QueueEvent Ticket))}
    (run : Run Recorded (ofWorkers retries workers) es c) :
    (∀ i < workers, c.phase i = .left → ∃ e ∈ es.reduceOption, e.act = .shutDown)
      ∧ (c.isOver = true →
          (c.queue.shared.queue.waiting = [] ∧ c.queue.shared.queue.dirty = []
            ∧ c.queue.shared.queue.processing = [])
          ∧ ∀ pre e post t, es.reduceOption = pre ++ e :: post → e.act = .add t →
              (∀ e' ∈ pre, e'.act ≠ .shutDown) → t ∈ deliveries post)
      ∧ ∀ pre e post, es.reduceOption = pre ++ e :: post → e.act = .shutDown →
          (∀ e' ∈ post, ∀ t, e'.act = .add t → e'.after = e'.before)
            ∧ (deliveries post ++ c.queue.shared.queue.dirty).Perm e.before.dirty := by
  obtain ⟨s, mirrored, mirrors⟩ := mirrored_of_run run
  obtain ⟨departed, length⟩ := departed_of_run some run
  have queue : s.queue = c.queue.shared.queue := congrArg SharedQueue.queue mirrors.shared
  have sound := QueueInUse.Sound.run mirrored
  refine ⟨fun i hi left => ?_, fun ended => ?_, ?_⟩
  · have closed : s.queue.closed = true := queue ▸ departed.closed i (length ▸ hi) left
    exact ((QueueInUse.closed_of_run mirrored).1 closed).resolve_left nofun
  · have all := isOver_iff.1 ended
    have waiting : s.queue.waiting = [] := queue ▸ departed.empty all
    have processing : s.queue.processing = [] := by
      refine List.eq_nil_iff_forall_not_mem.2 fun t processed => ?_
      obtain ⟨i, held⟩ := sound.mem_processing.1 processed
      have holds := (mirrors.held i t).1 held
      rw [all i] at holds
      cases holds
    -- what is dirty waits or is processed
    have dirty : s.queue.dirty = [] := by
      refine List.eq_nil_iff_forall_not_mem.2 fun t mem => ?_
      have waits : t ∈ s.queue.waiting :=
        (sound.orderly.mem_waiting t).2 ⟨mem, by simp [processing]⟩
      simp [waiting] at waits
    refine ⟨queue ▸ ⟨waiting, dirty, processing⟩, ?_⟩
    intro pre e post t hes added before
    rw [hes, List.append_cons] at mirrored
    obtain ⟨u, first, second⟩ := mirrored.split
    obtain ⟨v, run, step⟩ := first.last
    have open_ : e.before.closed = false := by
      rw [step.2.1, Bool.eq_false_iff]
      intro closed
      obtain shut | ⟨e', mem, shut⟩ := (QueueInUse.closed_of_run run).1 closed
      · cases shut
      · exact before e' mem shut
    obtain got | late := QueueInUse.delivered_or_dirty (QueueInUse.Sound.run first) second
      (step.dirty_of_add added open_)
    · exact got
    · simp [dirty] at late
  · intro pre e post hes shut
    rw [hes, List.append_cons] at mirrored
    obtain ⟨u, first, second⟩ := mirrored.split
    obtain ⟨v, -, step⟩ := first.last
    have same : u.queue = e.before.shutDown := step.queue_of_shutDown shut
    rw [← queue, show e.before.dirty = u.queue.dirty from same ▸ rfl]
    exact QueueInUse.shut_of_run (QueueInUse.Sound.run first) (same ▸ rfl) second

/-- A request is added again while worker 0 works on it, the queue is shut down, and worker 1 leaves.
Worker 0 gets the request a second time before it leaves too, although it is added once more. -/
theorem held_back_request_outlives_the_other_worker :
    ∃ (es : List (Option (QueueEvent Ticket))) (c : Controller) (t : Ticket),
      0 < 2 ∧ Run Recorded (ofWorkers 5 2) es c ∧ c.isOver = true
        ∧ (∃ e ∈ es.reduceOption, e.act = .shutDown) ∧ deliveries es.reduceOption = [t, t]
        ∧ c.queue.shared.queue.waiting = [] := by
  let r : Request := ⟨⟨"s", "p"⟩, .add, [], ""⟩
  let t : Ticket := ⟨0, r⟩
  let free : Locks := ⟨⟨[]⟩, ⟨[(0, [])]⟩, 1⟩
  let at_ (q : SharedQueue Ticket) (locks : Locks) (p : Phase) : Controller :=
    ⟨5, 1, ⟨q, .standard⟩, locks, [p, .left]⟩
  have held := Run.nil
    |>.snoc (QueueStep.enqueue (ofWorkers 5 2) r).record
    |>.snoc (QueueStep.move (rfl : turn _ 0 0 = .moves _ _)).record
    |>.snoc (QueueStep.move (rfl : turn _ 0 0 = .moves _ _)).record
    |>.snoc (QueueStep.move (rfl : turn _ 0 0 = .moves _ _)).record
    |>.snoc (QueueStep.move (rfl : turn _ 0 0 = .moves _ _)).record
  have alone := held
    |>.snoc (QueueStep.add _ t).record
    |>.snoc (QueueStep.shutDown _).record
    |>.snoc (QueueStep.move (rfl : turn _ 0 1 = .moves _ _)).record
    |>.snoc (QueueStep.move (rfl : turn _ 0 1 = .moves _ _)).record
  have worked := alone
    |>.snoc (QueueStep.act (rfl : turn _ 0 0 = .acts (.getPod r.pod) _)
      (Except.ok (default : Pod))).record
    |>.snoc (QueueStep.move (rfl : turn _ 0 0 = .moves _ _)).record
    |>.snoc (QueueStep.move (rfl : turn _ 0 0 = .moves _ _)).record
  -- the states between are written out to keep the terms small
  have worked : Run Recorded (ofWorkers 5 2) _
      (at_ ⟨⟨[], [t], [t], true⟩, false, []⟩ free (.settling t (.ok ()))) := worked
  have back := worked
    |>.snoc (QueueStep.move (rfl : turn _ 0 0 = .moves _ _)).record
    |>.snoc (QueueStep.move (rfl : turn _ 0 0 = .moves _ _)).record
  have back : Run Recorded (ofWorkers 5 2) _
      (at_ ⟨⟨[t], [t], [], true⟩, true, []⟩ free .seeking) := back
  have again := back
    |>.snoc (QueueStep.move (rfl : turn _ 0 0 = .moves _ _)).record
    |>.snoc (QueueStep.move (rfl : turn _ 0 0 = .moves _ _)).record
    |>.snoc (QueueStep.add _ t).record
  have again : Run Recorded (ofWorkers 5 2) _
      (at_ ⟨⟨[], [], [t], true⟩, false, []⟩ free (.asking t)) := again
  have done := again
    |>.snoc (QueueStep.move (rfl : turn _ 0 0 = .moves _ _)).record
    |>.snoc (QueueStep.move (rfl : turn _ 0 0 = .moves _ _)).record
    |>.snoc (QueueStep.act (rfl : turn _ 0 0 = .acts (.getPod r.pod) _)
      (Except.ok (default : Pod))).record
    |>.snoc (QueueStep.move (rfl : turn _ 0 0 = .moves _ _)).record
    |>.snoc (QueueStep.move (rfl : turn _ 0 0 = .moves _ _)).record
  have done : Run Recorded (ofWorkers 5 2) _
      (at_ ⟨⟨[], [], [t], true⟩, false, []⟩ ⟨⟨[]⟩, ⟨[(1, []), (0, [])]⟩, 2⟩
        (.settling t (.ok ()))) := done
  have run := done
    |>.snoc (QueueStep.move (rfl : turn _ 0 0 = .moves _ _)).record
    |>.snoc (QueueStep.move (rfl : turn _ 0 0 = .moves _ _)).record
    |>.snoc (QueueStep.move (rfl : turn _ 0 0 = .moves _ _)).record
    |>.snoc (QueueStep.move (rfl : turn _ 0 0 = .moves _ _)).record
  obtain ⟨early, drained, -⟩ := shutdown_drains (by decide) run
  refine ⟨_, _, t, by decide, run, rfl, early 1 (by decide) rfl, ?_, (drained rfl).1.1⟩
  decide +kernel

end Controller

end NetAttach
