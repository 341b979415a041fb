-- SUMMARY: What one step of a worker does, and how it shifts the requests between the queue and the workers.
import NetAttach.Proofs.Controller
import NetAttach.Proofs.Line
import NetAttach.Proofs.Signals

/-!
# Moves

What one step of a worker of an open queue does is said once, in `Controller.Move`,
together with how it shifts the requests between the queue, the workers and the delays.
The requests of a queue and of the workers are counted by weights.
-/

namespace NetAttach

/-! ## What a worker does in one step -/

/-- A worker goes on with the request that it has taken. -/
inductive Phase.Passes (retries : Nat) : Phase → Phase → Prop where
  | ask (t : Ticket) (lock : Nat) : Passes retries (.asking t) (.lined t lock)
  | grant (t : Ticket) (lock : Nat) :
    Passes retries (.lined t lock) (.working t lock (reconcile retries t.request).run)
  | release (t : Ticket) (lock : Nat) (result : Except Fault Unit) :
    Passes retries (.working t lock (.done result)) (.sweeping t result)
  | sweep (t : Ticket) (result : Except Fault Unit) :
    Passes retries (.sweeping t result) (.settling t result)

namespace Controller

/-- A worker moves from one phase to the next. It takes requests from the queue, and delays some. -/
inductive Move (c : Controller) (i : Nat) :
    Phase → Phase → List Ticket → List Ticket → Controller → Prop where
  | register :
    Move c i .seeking .listed [] []
      ((c.withShared (c.queue.shared.register i)).enter i .listed)
  | restart {g : Getter} (found : c.queue.shared.getter? i = some g) (woken : g.woken = true) :
    Move c i .listed .seeking [] [] ((c.withShared (c.queue.shared.drop i)).enter i .seeking)
  /-- It looks at the queue in vain. -/
  | vain {g : Getter} (found : c.queue.shared.getter? i = some g) (unchecked : g.checked = false)
    (empty : c.queue.shared.queue.waiting = []) :
    Move c i .listed .listed [] [] ((c.withShared (c.queue.shared.check i).2).enter i .listed)
  | get {g : Getter} {t : Ticket} {rest : WorkQueue Ticket}
    (found : c.queue.shared.getter? i = some g) (unchecked : g.checked = false)
    (taken : c.queue.shared.queue.take? = some (t, rest)) :
    Move c i .listed (.asking t) [t] []
      ((c.withShared (SharedQueue.leave { c.queue.shared with queue := rest } i)).enter i (.asking t))
  | pass {p p' : Phase} (passes : p.Passes c.conflictRetries p') (locks : Locks) :
    Move c i p p' [] [] ({ c with locks }.enter i p')
  | succeed (t : Ticket) :
    Move c i (.settling t (.ok ())) (.finishing t) [] []
      ({ c with queue := c.queue.forget t }.enter i (.finishing t))
  /-- The request failed and is delayed. -/
  | again (t : Ticket) (cause : Fault) (clock : Nat) (few : c.queue.retries t ≤ maxRetries) :
    Move c i (.settling t (.error cause)) (.finishing t) [] [t]
      ({ c with queue := (c.queue.nextDelay clock t).2 }.enter i (.finishing t))
  /-- The request failed too often and is given up. -/
  | drop (t : Ticket) (cause : Fault) (many : maxRetries < c.queue.retries t) :
    Move c i (.settling t (.error cause)) (.finishing t) [] []
      ({ c with queue := c.queue.forget t }.enter i (.finishing t))
  | finish (t : Ticket) :
    Move c i (.finishing t) .seeking [] [] ({ c with queue := c.queue.done t }.enter i .seeking)

variable {c c' : Controller} {i clock : Nat} {effects : List Effect}

/-- A worker of a list that is in a phase is not changed by entering it. -/
theorem enter_phase {p : Phase} (h : c.phase i = p) : c.enter i p = c := by
  have same : c.workers.set i p = c.workers := by
    apply List.ext_getElem?
    intro j
    rw [List.getElem?_set]
    split
    · next hj =>
      subst hj
      split
      · next hi =>
        rw [← h, phase, List.getElem?_eq_getElem hi]
        rfl
      · next hi => rw [List.getElem?_eq_none (Nat.le_of_not_lt hi)]
    · rfl
  rw [enter, same]

theorem move_of_look (hp : c.phase i = .listed) (open_ : c.queue.shared.queue.closed = false)
    (h : c.look i = .moves c' effects) :
    ∃ p taken, Move c i .listed p taken (effects.filterMap Effect.ticket?) c' := by
  unfold look at h
  split at h
  · cases h
  · next g found =>
    split at h
    · cases h
    · next awake =>
      split at h
      · next woken =>
        cases h
        exact ⟨_, _, .restart found woken⟩
      · next unwoken =>
        have unchecked := Getter.unchecked awake unwoken
        cases taken : c.queue.shared.queue.take? with
        | none =>
          have vain : c.queue.shared.check i = (none, (c.queue.shared.check i).2) :=
            Prod.ext (by simp [SharedQueue.check, taken, open_]) rfl
          rw [vain] at h
          cases h
          have move := Move.vain found unchecked (WorkQueue.take?_eq_none.1 taken)
          rw [enter_phase (show (c.withShared (c.queue.shared.check i).2).phase i = .listed from hp)]
            at move
          exact ⟨_, _, move⟩
        | some item =>
          obtain ⟨t, rest⟩ := item
          have got : c.queue.shared.check i
              = (some (.item t), SharedQueue.leave { c.queue.shared with queue := rest } i) := by
            simp [SharedQueue.check, taken]
          rw [got] at h
          cases h
          exact ⟨_, _, .get found unchecked taken⟩

theorem move_of_turn (open_ : c.queue.shared.queue.closed = false)
    (standard : c.queue.limiter.IsStandard) (h : c.turn clock i = .moves c' effects) :
    ∃ p taken, Move c i (c.phase i) p taken (effects.filterMap Effect.ticket?) c' := by
  generalize hp : c.phase i = before at h
  unfold turn at h
  rw [hp] at h
  cases before with
  | seeking =>
    cases h
    exact ⟨_, _, .register⟩
  | listed => exact move_of_look hp open_ h
  | asking t =>
    cases h
    exact ⟨_, _, .pass (.ask t _) _⟩
  | lined t lock =>
    dsimp only at h
    split at h
    · cases h
      exact ⟨_, _, .pass (.grant t lock) c.locks⟩
    · cases h
  | working t lock rest =>
    cases rest with
    | act action next => cases h
    | done result =>
      cases h
      exact ⟨_, _, .pass (.release t lock result) _⟩
  | sweeping t result =>
    cases h
    exact ⟨_, _, .pass (.sweep t result) _⟩
  | settling t result =>
    cases result with
    | ok =>
      cases h
      exact ⟨_, _, .succeed t⟩
    | error cause =>
      unfold settle at h
      dsimp only at h
      split at h
      · next few =>
        rw [RateQueue.addAfter_nextDelay standard open_] at h
        cases h
        exact ⟨_, _, .again t cause clock few⟩
      · next many =>
        cases h
        exact ⟨_, _, .drop t cause (Nat.lt_of_not_le many)⟩
  | finishing t =>
    cases h
    exact ⟨_, _, .finish t⟩
  | left => cases h

end Controller

/-! ## What a step shifts -/

namespace WorkQueue

variable {α : Type} [DecidableEq α] {q r : WorkQueue α} {x : α} (d : α → Nat)

theorem load_add : load d (q.add x).dirty = load d q.dirty + if q.accepts x then d x else 0 := by
  unfold add
  split
  · simp
    omega
  · simp

theorem load_take (h : q.Orderly) (taken : q.take? = some (x, r)) :
    load d r.dirty + d x = load d q.dirty := by
  obtain ⟨waits, dirty, -⟩ := take?_eq_some taken
  have mem : x ∈ q.dirty := ((h.mem_waiting x).1 (by simp [waits])).1
  rw [dirty, load_erase mem]

end WorkQueue

namespace Controller

variable {c c' : Controller} {i : Nat} {p p' : Phase} {taken delayed : List Ticket}

theorem Move.workers (move : Move c i p p' taken delayed c') : c'.workers = c.workers.set i p' := by
  cases move <;> rfl

theorem Move.conflictRetries (move : Move c i p p' taken delayed c') :
    c'.conflictRetries = c.conflictRetries ∧ c'.made = c.made := by
  cases move <;> exact ⟨rfl, rfl⟩

theorem Move.standard (move : Move c i p p' taken delayed c')
    (standard : c.queue.limiter.IsStandard) : c'.queue.limiter.IsStandard := by
  cases move with
  | succeed t => exact RateQueue.isStandard_forget standard t
  | again t cause clock => exact (RateQueue.nextDelay_spec standard clock t).2.1
  | drop t => exact RateQueue.isStandard_forget standard t
  | _ => exact standard

theorem Move.ne_left (move : Move c i p p' taken delayed c') : p ≠ .left := by
  cases move with
  | pass passes => cases passes <;> exact nofun
  | _ => exact nofun

theorem lt_of_phase (hp : c.phase i = p) (ne : p ≠ .left) : i < c.workers.length := by
  refine Nat.lt_of_not_le fun le => ne ?_
  rw [← hp, phase, List.getElem?_eq_none le]
  rfl

/-- A worker is exchanged for what it becomes. -/
theorem load_set_phase (hp : c.phase i = p) (ne : p ≠ .left) (p' : Phase) (w : Phase → Nat) :
    load w (c.workers.set i p') + w p = load w c.workers + w p' := by
  have hi := lt_of_phase hp ne
  have hp : c.workers[i] = p := by
    rw [← hp, phase, List.getElem?_eq_getElem hi]
    rfl
  rw [← hp]
  exact load_set hi

theorem Move.load_workers (move : Move c i p p' taken delayed c') (hp : c.phase i = p)
    (w : Phase → Nat) : load w c'.workers + w p = load w c.workers + w p' := by
  rw [move.workers]
  exact load_set_phase hp move.ne_left p' w

theorem Move.phase (move : Move c i p p' taken delayed c') (hp : c.phase i = p) (j : Nat) :
    c'.phase j = if j = i then p' else c.phase j := by
  have hi := lt_of_phase hp move.ne_left
  unfold Controller.phase
  rw [move.workers, List.getElem?_set]
  by_cases same : i = j
  · subst same
    simp [hi]
  · simp [same, Ne.symm same]

/-- What a worker that goes from one phase to the next does to the queue, with what it takes. -/
inductive Shifts (q : WorkQueue Ticket) :
    Phase → Phase → List Ticket → WorkQueue Ticket → Prop where
  | nothing {p p' : Phase} (same : p'.ticket? = p.ticket?) : Shifts q p p' [] q
  | takes {t : Ticket} {rest : WorkQueue Ticket} (taken : q.take? = some (t, rest)) :
    Shifts q .listed (.asking t) [t] rest
  | puts (t : Ticket) : Shifts q (.finishing t) .seeking [] (q.done t)

theorem Move.shifts (move : Move c i p p' taken delayed c') :
    Shifts c.queue.shared.queue p p' taken c'.queue.shared.queue := by
  cases move with
  | register =>
    simp only [enter, withShared, SharedQueue.queue_register]
    exact .nothing rfl
  | restart => exact .nothing rfl
  | vain _ _ empty =>
    obtain ⟨_, -, took⟩ | ⟨-, -, same⟩ := c.queue.shared.queue_check i
    · rw [WorkQueue.take?_eq_none.2 empty] at took
      cases took
    · simp only [enter, withShared, same]
      exact .nothing rfl
  | get _ _ taken =>
    simp only [enter, withShared, SharedQueue.queue_leave]
    exact .takes taken
  | pass passes locks =>
    refine .nothing ?_
    cases passes <;> rfl
  | finish t =>
    simp only [enter, RateQueue.done, SharedQueue.queue_done]
    exact .puts t
  | _ => exact .nothing rfl

/-- One for a ticket, and none for any other. -/
def only (t u : Ticket) : Nat := if u = t then 1 else 0

@[simp] theorem only_self (t : Ticket) : only t t = 1 := if_pos rfl

theorem only_of_ne {t u : Ticket} (ne : u ≠ t) : only t u = 0 := if_neg ne

/-- One for a worker that holds a ticket, and none for any other. -/
def holding (t : Ticket) (p : Phase) : Nat :=
  match p.ticket? with
  | some u => only t u
  | none => 0

theorem mem_of_load {t : Ticket} {xs : List Ticket} (h : 0 < load (only t) xs) : t ∈ xs := by
  obtain ⟨u, mem, some⟩ := exists_of_load h
  unfold only at some
  split at some
  · next same => exact same ▸ mem
  · cases some

theorem load_of_mem {t : Ticket} {xs : List Ticket} (h : t ∈ xs) : 0 < load (only t) xs :=
  Nat.lt_of_lt_of_le (by simp) (le_load h)

namespace Shifts

variable {q r : WorkQueue Ticket}

theorem closed (h : Shifts q p p' taken r) : r.closed = q.closed := by
  cases h with
  | takes taken => exact (WorkQueue.take?_eq_some taken).2.2.2
  | _ => rfl

theorem orderly (h : Shifts q p p' taken r) (orderly : q.Orderly)
    (held : ∀ t, p.ticket? = some t → t ∈ q.processing) : r.Orderly := by
  cases h with
  | nothing => exact orderly
  | takes taken => exact WorkQueue.orderly_take orderly taken
  | puts t => exact WorkQueue.orderly_done orderly (held t rfl)

theorem load_dirty (h : Shifts q p p' taken r) (orderly : q.Orderly) (d : Ticket → Nat) :
    load d r.dirty + load d taken = load d q.dirty := by
  cases h with
  | takes taken => simpa using WorkQueue.load_take d orderly taken
  | _ => exact Nat.add_zero _

theorem load_processing (h : Shifts q p p' taken r) (orderly : q.Orderly)
    (held : ∀ t, p.ticket? = some t → t ∈ q.processing) (t : Ticket) :
    load (only t) r.processing + holding t p = load (only t) q.processing + holding t p' := by
  cases h with
  | nothing same => rw [holding, holding, same]
  | takes taken =>
    obtain ⟨waits, -, processing, -⟩ := WorkQueue.take?_eq_some taken
    rw [processing, List.insert_of_not_mem (orderly.not_processing (by simp [waits]))]
    simp [holding, only, Phase.ticket?]
    omega
  | puts u =>
    show load (only t) (q.processing.erase u) + holding t (.finishing u) = load (only t) q.processing
    exact load_erase (held u rfl)

end Shifts

end Controller

end NetAttach
