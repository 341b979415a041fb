-- SUMMARY: A single worker in quiet surroundings works off the line of its requests.
import NetAttach.Proofs.Line
import NetAttach.Proofs.Quiet
import NetAttach.Proofs.Signals

/-!
# Controllers with a single worker

A single worker takes its requests one after the other, in surroundings that answer
whatever quiet surroundings may. A delay may be over at any moment. Whatever happens, the
worker delivers the head of the line next, and rests once nothing is in line.
-/

namespace NetAttach

/-- A controller with a single worker, the store of its pods, and the requests that are delayed. -/
structure Solo where
  controller : Controller
  store : PodStore
  later : List Ticket

namespace Solo

/-! ## Steps -/

/-- The request is added whose delay is over. -/
def due (s : Solo) (t : Ticket) (later : List Ticket) : Solo :=
  ⟨s.controller.add t, s.store, later⟩

/-- One step of the worker, or the end of a delay. -/
inductive Step (s : Solo) : Solo → Prop where
  | move {c : Controller} {clock : Nat} {effects : List Effect}
    (turn : s.controller.turn clock 0 = .moves c effects) :
    Step s ⟨c, s.store, s.later ++ effects.filterMap Effect.ticket?⟩
  | act {clock : Nat} {action : Action} {next : action.Answer → Controller} {store : PodStore}
    (turn : s.controller.turn clock 0 = .acts action next) (answer : action.Answer)
    (answers : s.store.Quiet ⟨action, answer⟩ store) : Step s ⟨next answer, store, s.later⟩
  | due {front back : List Ticket} {t : Ticket} (later : s.later = front ++ t :: back) :
    Step s (s.due t (front ++ back))

end Solo

/-! ## Getters -/

namespace SharedQueue

variable {q : SharedQueue Ticket} {p : Phase}

/-- The single worker is registered exactly when it has to be, and sleeps only if nothing waits. -/
def Attended (q : SharedQueue Ticket) : Phase → Prop
  | .listed => ∃ g, q.getters = [g] ∧ g.id = 0 ∧ (g.asleep = true → q.queue.waiting = [])
  | _ => q.getters = []

theorem add_of_nobody (h : q.getters = []) (x : Ticket) :
    (q.add x).getters = [] ∧ ((q.add x).permit = true ∨ (q.add x).permit = q.permit) := by
  unfold SharedQueue.add
  dsimp only
  split
  · unfold notifyOne
    simp [h, choose?]
  · exact ⟨h, .inr rfl⟩

/-- A single getter is signalled if it is not yet, or the signal is kept for it. -/
theorem add_of_getter {g : Getter} (h : q.getters = [g]) (x : Ticket) :
    ((q.add x).getters = [g] ∧ (q.add x).permit = q.permit ∧ (q.queue.add x).waiting = q.queue.waiting)
      ∨ (g.signal = none ∧ (q.add x).getters = [{ g with signal := some .chosen }]
        ∧ (q.add x).permit = q.permit)
      ∨ (g.signal.isSome = true ∧ (q.add x).getters = [g] ∧ (q.add x).permit = true) := by
  unfold SharedQueue.add
  dsimp only
  split
  · unfold notifyOne
    cases signal : g.signal <;> simp [h, choose?, signal]
  · next same =>
    exact .inl ⟨h, rfl, WorkQueue.waiting_add same⟩

theorem Attended.add (h : q.Attended p) (x : Ticket) : (q.add x).Attended p := by
  cases p with
  | listed =>
    obtain ⟨g, hg, hid, asleep⟩ := h
    obtain ⟨hg', -, same⟩ | ⟨-, hg', -⟩ | ⟨signal, hg', -⟩ := add_of_getter hg x
    · refine ⟨g, hg', hid, fun h => ?_⟩
      rw [queue_add, same]
      exact asleep h
    · exact ⟨_, hg', hid, fun h => by simp [Getter.asleep] at h⟩
    · refine ⟨g, hg', hid, fun h => ?_⟩
      simp [Getter.asleep, Option.isSome_iff_ne_none.1 signal] at h
  | _ => exact (add_of_nobody h x).1

theorem Attended.register (h : q.Attended .seeking) : (q.register 0).Attended .listed := by
  have nobody : q.getters = [] := h
  obtain ⟨signal, getters, -⟩ := q.getters_register 0
  rw [nobody] at getters
  exact ⟨⟨0, false, signal⟩, getters, rfl, nofun⟩

theorem getter?_single {g : Getter} (hg : q.getters = [g]) (hid : g.id = 0) :
    q.getter? 0 = some g := by
  simp [getter?, hg, hid]

theorem Attended.restart {g : Getter} (hg : q.getters = [g]) (hid : g.id = 0)
    (woken : g.woken = true) : (q.drop 0).Attended .seeking ∧ (q.drop 0).stir + 2 < q.stir := by
  have nobody : (q.drop 0).getters = [] := by simp [drop, hg, hid]
  have dropped := stir_drop (getter?_single hg hid)
  simp only [Getter.woken, Bool.and_eq_true] at woken
  simp only [Getter.stir, woken, if_true] at dropped
  exact ⟨nobody, by omega⟩

/-- A look in vain sends the getter to sleep, unless it has a signal. -/
theorem check_vain {g : Getter} (hg : q.getters = [g]) (hid : g.id = 0)
    (empty : q.queue.waiting = []) (open_ : q.queue.closed = false) :
    (q.check 0).1 = none ∧ (q.check 0).2.queue = q.queue ∧ (q.check 0).2.Attended .listed := by
  have vain : q.check 0 = (none, { q with getters := [{ g with checked := true }] }) := by
    simp [check, WorkQueue.take?, empty, open_, hg, hid]
  rw [vain]
  exact ⟨rfl, rfl, ⟨_, rfl, hid, fun _ => empty⟩⟩

theorem check_item {g : Getter} (hg : q.getters = [g]) (hid : g.id = 0) {x : Ticket}
    {r : WorkQueue Ticket} (taken : q.queue.take? = some (x, r)) :
    (q.check 0).1 = some (.item x) ∧ (q.check 0).2.queue = r ∧ (q.check 0).2.getters = [] := by
  have found : ({ q with queue := r } : SharedQueue Ticket).getter? 0 = some g :=
    getter?_single hg hid
  have nobody : ({ q with queue := r } : SharedQueue Ticket).drop 0
      = { q with queue := r, getters := [] } := by simp [drop, hg, hid]
  unfold check
  rw [taken]
  refine ⟨rfl, by simp, ?_⟩
  simp only [leave, found, nobody]
  split <;> simp [notifyOne, choose?]

end SharedQueue

/-! ## Where the worker stands -/

namespace Solo

/-- The worker stands in a phase, with requests in line and a store of pods. The request `a` is the
only one that is ever delayed, and was tried in vain `k` times. -/
structure Stands (a : Ticket) (k : Nat) (p : Phase) (line : List Ticket) (store : PodStore)
    (s : Solo) : Prop where
  workers : s.controller.workers = [p]
  locks : s.controller.LocksSound
  standard : s.controller.queue.limiter.IsStandard
  tries : s.controller.queue.retries a = k
  attended : s.controller.queue.shared.Attended p
  line : Line s.controller.queue.shared.queue s.later p.ticket? a line
  store : s.store = store

variable {a t : Ticket} {k : Nat} {p : Phase} {line : List Ticket} {store : PodStore} {s : Solo}

theorem Stands.phase (h : Stands a k p line store s) : s.controller.phase 0 = p := by
  simp [Controller.phase, h.workers]

/-- The end of a delay changes nothing but where in line its request is. -/
theorem Stands.due (h : Stands a k p line store s) {front back : List Ticket}
    (later : s.later = front ++ t :: back) : Stands a k p line store (s.due t (front ++ back)) := by
  have line' := h.line
  rw [later] at line'
  refine ⟨h.workers, h.locks.step (.add _ t), h.standard, h.tries, h.attended.add t, ?_, h.store⟩
  show Line (s.controller.queue.shared.add t).queue _ _ _ _
  rw [SharedQueue.queue_add]
  exact line'.due

/-- A move of the worker keeps the locks sound. -/
theorem Stands.move (h : Stands a k p line store s) {p' : Phase} {k' clock : Nat}
    {line' later : List Ticket} {c : Controller} {effects : List Effect}
    (turn : s.controller.turn clock 0 = .moves c effects) (workers : c.workers = [p'])
    (standard : c.queue.limiter.IsStandard) (tries : c.queue.retries a = k')
    (attended : c.queue.shared.Attended p')
    (line : Line c.queue.shared.queue later p'.ticket? a line') :
    Stands a k' p' line' store ⟨c, s.store, later⟩ :=
  ⟨workers, h.locks.step (.move turn), standard, tries, attended, line, h.store⟩

/-- A worker that can only move comes to whatever it comes to from every state it may move to. -/
theorem Stands.inevitably_of_move {P : Solo → Prop} (h : Stands a k p line store s)
    (move : ∀ s, Stands a k p line store s → ∀ clock, ∃ c effects,
      s.controller.turn clock 0 = .moves c effects
        ∧ Inevitably Step P ⟨c, s.store, s.later ++ effects.filterMap Effect.ticket?⟩) :
    Inevitably Step P s := by
  refine Inevitably.of_rank (I := Stands a k p line store) (fun s => s.later.length)
    (fun s h => .inr ⟨?_, fun s' step => ?_⟩) h
  · obtain ⟨c, effects, turn, -⟩ := move s h 0
    exact ⟨_, .move turn⟩
  · cases step with
    | @move c clock effects turn =>
      obtain ⟨c', effects', turn', goes⟩ := move s h clock
      cases turn.symm.trans turn'
      exact .inl goes
    | @act clock action next store' turn answer answers =>
      obtain ⟨c', effects', turn', -⟩ := move s h clock
      cases turn.symm.trans turn'
    | due later =>
      refine .inr ⟨h.due later, ?_⟩
      simp [Solo.due, later]

/-! ## Getting a request -/

/-- A worker that is not registered has two steps more before it than one that is. -/
def distance : Phase → Nat
  | .listed => 0
  | _ => 2

/-- How far the worker is from rest or from getting a request. -/
def rank (s : Solo) : Nat :=
  10 * s.later.length + (s.controller.queue.shared.stir + distance (s.controller.phase 0))

theorem Stands.rank_due (h : Stands a k p line store s) {front back : List Ticket}
    (later : s.later = front ++ t :: back) : (s.due t (front ++ back)).rank < s.rank := by
  have more := SharedQueue.stir_add (q := s.controller.queue.shared) (x := t)
  have phase := (h.due later).phase
  unfold rank
  rw [phase, h.phase, later]
  show 10 * _ + ((s.controller.queue.shared.add t).stir + _) < _
  simp only [Solo.due, List.length_append, List.length_cons]
  omega

theorem Stands.rank_lt {c : Controller} {q : Phase} (h : Stands a k p line store s)
    (next : Stands a k q line store ⟨c, s.store, s.later⟩)
    (less : c.queue.shared.stir + distance q < s.controller.queue.shared.stir + distance p) :
    rank ⟨c, s.store, s.later⟩ < s.rank := by
  unfold rank
  rw [next.phase, h.phase]
  exact Nat.add_lt_add_left less _

/-- The worker is about to get a request. -/
def Seeks (a : Ticket) (k : Nat) (line : List Ticket) (store : PodStore) (s : Solo) : Prop :=
  ∃ p, (p = .seeking ∨ p = .listed) ∧ Stands a k p line store s

/-- What a worker does next that is about to get a request. -/
inductive Approach (a : Ticket) (k : Nat) (line : List Ticket) (store : PodStore) (s : Solo) :
    Prop where
  | sleeps (turn : ∀ clock, s.controller.turn clock 0 = .rests)
    (listed : Stands a k .listed line store s) (empty : s.controller.queue.shared.queue.waiting = [])
  | nears {c : Controller} (turn : ∀ clock, s.controller.turn clock 0 = .moves c [])
    (seeks : Seeks a k line store ⟨c, s.store, s.later⟩)
    (less : rank ⟨c, s.store, s.later⟩ < s.rank)
  | takes {c : Controller} {t : Ticket} {rest : List Ticket}
    (turn : ∀ clock, s.controller.turn clock 0 = .moves c []) (head : line = t :: rest)
    (asks : Stands a k (.asking t) rest store ⟨c, s.store, s.later⟩)

theorem Stands.approach_seeking (h : Stands a k .seeking line store s) :
    Approach a k line store s := by
  have turn : ∀ clock, s.controller.turn clock 0 = .moves
      ((s.controller.withShared (s.controller.queue.shared.register 0)).enter 0 .listed) [] := by
    intro clock
    unfold Controller.turn
    rw [h.phase]
  obtain ⟨-, -, stir⟩ := s.controller.queue.shared.getters_register 0
  have next : Stands a k .listed line store ⟨_, s.store, s.later⟩ :=
    h.move (turn 0) (by simp [Controller.enter, Controller.withShared, h.workers])
      h.standard h.tries (SharedQueue.Attended.register h.attended) (by
        show Line (s.controller.queue.shared.register 0).queue _ _ _ _
        rw [SharedQueue.queue_register]
        exact h.line)
  exact .nears turn ⟨_, .inr rfl, next⟩ (h.rank_lt next (Nat.lt_succ_of_le stir))

/-- A registered worker sleeps, was woken, or looks at the queue. -/
theorem Stands.approach_listed (h : Stands a k .listed line store s) :
    Approach a k line store s := by
  obtain ⟨g, hg, hid, asleep⟩ := h.attended
  have found := SharedQueue.getter?_single hg hid
  have look : ∀ clock, s.controller.turn clock 0 = s.controller.look 0 := by
    intro clock
    unfold Controller.turn
    rw [h.phase]
  unfold Controller.look at look
  rw [found] at look
  dsimp only at look
  by_cases sleeps : g.asleep = true
  · rw [if_pos sleeps] at look
    exact .sleeps look h (asleep sleeps)
  rw [if_neg sleeps] at look
  by_cases woken : g.woken = true
  · rw [if_pos woken] at look
    obtain ⟨attended, less⟩ := SharedQueue.Attended.restart hg hid woken
    have next : Stands a k .seeking line store ⟨_, s.store, s.later⟩ :=
      h.move (look 0) (by simp [Controller.enter, Controller.withShared, h.workers])
        h.standard h.tries attended h.line
    exact .nears look ⟨_, .inl rfl, next⟩ (h.rank_lt next less)
  rw [if_neg woken] at look
  have unchecked : g.checked = false := Getter.unchecked sleeps woken
  cases taken : s.controller.queue.shared.queue.take? with
  | none =>
    have empty := WorkQueue.take?_eq_none.1 taken
    obtain ⟨got, same, attended⟩ := SharedQueue.check_vain hg hid empty h.line.open_
    have less := SharedQueue.stir_vain found unchecked empty h.line.open_
    rw [got] at look
    have next : Stands a k .listed line store ⟨_, s.store, s.later⟩ :=
      h.move (look 0) h.workers h.standard h.tries attended (by
        show Line (s.controller.queue.shared.check 0).2.queue _ _ _ _
        rw [same]
        exact h.line)
    exact .nears look ⟨_, .inr rfl, next⟩ (h.rank_lt next less)
  | some item =>
    obtain ⟨x, r⟩ := item
    obtain ⟨got, queue, nobody⟩ := SharedQueue.check_item hg hid taken
    rw [got] at look
    obtain ⟨rest, hline, line'⟩ := h.line.take taken
    have next : Stands a k (.asking x) rest store ⟨_, s.store, s.later⟩ :=
      h.move (look 0) (by simp [Controller.enter, Controller.withShared, h.workers])
        h.standard h.tries nobody (by
          show Line (s.controller.queue.shared.check 0).2.queue _ _ _ _
          rw [queue]
          exact line')
    exact .takes look hline next

theorem Stands.approach (h : Stands a k p line store s) (hp : p = .seeking ∨ p = .listed) :
    Approach a k line store s := by
  obtain rfl | rfl := hp
  · exact h.approach_seeking
  · exact h.approach_listed

/-- The worker gets the head of the line, or comes to rest if there is none. -/
theorem Stands.gets {P : Solo → Prop} (h : Stands a k p line store s)
    (hp : p = .seeking ∨ p = .listed)
    (rests : line = [] → ∀ s', Stands a k .listed [] store s' → (∀ t, ¬Step s' t) →
      Inevitably Step P s')
    (takes : ∀ t rest s', line = t :: rest → Stands a k (.asking t) rest store s' →
      Inevitably Step P s') : Inevitably Step P s := by
  refine Inevitably.of_rank rank (I := Seeks a k line store) (fun s ⟨p, hp, h⟩ => ?_) ⟨p, hp, h⟩
  have waits {front back : List Ticket} {t : Ticket} (later : s.later = front ++ t :: back) :
      Seeks a k line store (s.due t (front ++ back)) ∧ (s.due t (front ++ back)).rank < s.rank :=
    ⟨⟨p, hp, h.due later⟩, h.rank_due later⟩
  cases h.approach hp with
  | sleeps turn listed empty =>
    cases hlater : s.later with
    | nil =>
      obtain rfl := listed.line.nil_iff.2 ⟨empty, hlater⟩
      refine .inl (rests rfl s listed fun s' step => ?_)
      cases step with
      | move turn' => cases (turn _).symm.trans turn'
      | act turn' answer answers => cases (turn _).symm.trans turn'
      | due later => simp [hlater] at later
    | cons t back =>
      refine .inr ⟨⟨_, .due (show s.later = [] ++ t :: back from hlater)⟩, fun s' step => .inr ?_⟩
      cases step with
      | move turn' => cases (turn _).symm.trans turn'
      | act turn' answer answers => cases (turn _).symm.trans turn'
      | due later => exact waits later
  | @nears c turn seeks less =>
    refine .inr ⟨⟨_, .move (turn 0)⟩, fun s' step => .inr ?_⟩
    cases step with
    | move turn' =>
      cases (turn _).symm.trans turn'
      simpa using ⟨seeks, less⟩
    | act turn' answer answers => cases (turn _).symm.trans turn'
    | due later => exact waits later
  | takes turn head asks =>
    refine .inr ⟨⟨_, .move (turn 0)⟩, fun s' step => ?_⟩
    cases step with
    | move turn' =>
      cases (turn _).symm.trans turn'
      exact .inl (by simpa using takes _ _ _ head asks)
    | act turn' answer answers => cases (turn _).symm.trans turn'
    | due later => exact .inr (waits later)

/-! ## Working off a request -/

/-- The single worker is granted every lock at once. -/
theorem Stands.holds {lock : Nat} (h : Stands a k (.lined t lock) line store s) :
    s.controller.locks.holds lock 0 = true := by
  have stage : ∀ i, i ≠ 0 → Controller.lockStage (s.controller.phase i) = .away := by
    intro i hi
    have : s.controller.phase i = .left := by
      obtain ⟨i, rfl⟩ := Nat.exists_eq_succ_of_ne_zero hi
      simp [Controller.phase, h.workers]
    rw [this]
    rfl
  have first : Controller.lockStage (s.controller.phase 0) = .waiting t.request.pod lock := by
    rw [h.phase]
    rfl
  have mem : 0 ∈ s.controller.locks.line lock :=
    h.locks.mem_line.2 ⟨t.request.pod, by rw [first]; exact .inl rfl⟩
  have alone : ∀ i ∈ s.controller.locks.line lock, i = 0 := by
    intro i hi
    obtain ⟨pod, inLine⟩ := h.locks.mem_line.1 hi
    by_cases hi0 : i = 0
    · exact hi0
    · rw [stage i hi0] at inLine
      exact absurd inLine LockStage.not_inLine_away
  unfold Locks.holds
  cases hline : s.controller.locks.line lock with
  | nil =>
    rw [hline] at mem
    cases mem
  | cons i rest =>
    rw [alone i (by simp [hline])]
    rfl

/-- The worker runs a program to its end. -/
theorem Stands.works {P : Solo → Prop} {lock : Nat} {program : Control (Except Fault Unit)}
    {post : Except Fault Unit → PodStore → Prop}
    (h : Stands a k (.working t lock program) line store s)
    (ensures : program.Ensures PodStore.Quiet post store)
    (ends : ∀ r store' s', post r store' → Stands a k (.working t lock (.done r)) line store' s' →
      Inevitably Step P s') : Inevitably Step P s := by
  induction program generalizing s store with
  | done r => exact ends r store s ensures h
  | act action next ih =>
    obtain ⟨⟨r, store', answered⟩, all⟩ := ensures
    refine Inevitably.of_rank (I := Stands a k (.working t lock (.act action next)) line store)
      (fun s => s.later.length) (fun s h => .inr ⟨?_, fun s' step => ?_⟩) h
    · exact ⟨_, .act (Controller.turn_working 0 h.phase) r (h.store ▸ answered)⟩
    · have turn := fun clock => Controller.turn_working clock h.phase
      cases step with
      | @move c clock effects turn' => cases (turn clock).symm.trans turn'
      | @act clock action' next' store' turn' answer answers =>
        cases (turn clock).symm.trans turn'
        refine .inl (ih answer ?_ (all answer store' (h.store ▸ answers)))
        have step : Controller.Step s.controller _
            (s.controller.enter 0 (.working t lock (next answer))) :=
          .act (turn 0) h.phase answer
        exact ⟨by simp [Controller.enter, h.workers], h.locks.step step, h.standard, h.tries,
          h.attended, h.line, rfl⟩
      | due later =>
        refine .inr ⟨h.due later, ?_⟩
        simp [Solo.due, later]

/-- A move that leaves the queue alone. -/
theorem Stands.passes {P : Solo → Prop} {q : Phase} {l : Locks} {clock : Nat}
    (h : Stands a k p line store s)
    (turn : s.controller.turn clock 0
      = .moves (Controller.enter { s.controller with locks := l } 0 q) [])
    (same : q.ticket? = p.ticket?)
    (attended : s.controller.queue.shared.Attended p → s.controller.queue.shared.Attended q)
    (goes : ∀ s', Stands a k q line store s' → Inevitably Step P s') :
    ∃ c effects, s.controller.turn clock 0 = .moves c effects
      ∧ Inevitably Step P ⟨c, s.store, s.later ++ effects.filterMap Effect.ticket?⟩ := by
  refine ⟨_, _, turn, goes _ (h.move turn ?_ h.standard h.tries (attended h.attended) ?_)⟩
  · simp [Controller.enter, h.workers]
  · rw [same, List.filterMap_nil, List.append_nil]
    exact h.line

/-- The worker works off the request that it got, and is about to see to the result. -/
theorem Stands.delivers {P : Solo → Prop} {post : Except Fault Unit → PodStore → Prop}
    (h : Stands a k (.asking t) line store s)
    (ensures : ∀ retries, (reconcile retries t.request).Ensures PodStore.Quiet post store)
    (ends : ∀ r store' s', post r store' → Stands a k (.settling t r) line store' s' →
      Inevitably Step P s') : Inevitably Step P s := by
  have settle : ∀ {r store' s}, post r store' → Stands a k (.sweeping t r) line store' s →
      Inevitably Step P s := by
    intro r store' s hpost h
    refine h.inevitably_of_move fun s h clock => ?_
    refine h.passes (l := s.controller.locks.sweep t.request.pod) (q := .settling t r) ?_ rfl id
      fun s' h' => ends r store' s' hpost h'
    unfold Controller.turn
    rw [h.phase]
  have release : ∀ {r store' lock s}, post r store' →
      Stands a k (.working t lock (.done r)) line store' s → Inevitably Step P s := by
    intro r store' lock s hpost h
    refine h.inevitably_of_move fun s h clock => ?_
    refine h.passes (l := s.controller.locks.release lock 0) (q := .sweeping t r) ?_ rfl id
      fun s' h' => settle hpost h'
    unfold Controller.turn
    rw [h.phase]
  have grant : ∀ {lock s}, Stands a k (.lined t lock) line store s → Inevitably Step P s := by
    intro lock s h
    refine h.inevitably_of_move fun s h clock => ?_
    refine h.passes (l := s.controller.locks)
      (q := .working t lock (reconcile s.controller.conflictRetries t.request).run) ?_ rfl id
      fun s' h' => h'.works (ensures _) fun r store' s'' hpost h'' => release hpost h''
    unfold Controller.turn
    rw [h.phase]
    exact if_pos h.holds
  refine h.inevitably_of_move fun s h clock => ?_
  refine h.passes (l := (s.controller.locks.request t.request.pod 0).2)
    (q := .lined t (s.controller.locks.request t.request.pod 0).1) ?_ rfl id fun s' h' => grant h'
  unfold Controller.turn
  rw [h.phase]

/-! ## Seeing to the result -/

theorem Stands.finishes {P : Solo → Prop} (h : Stands a k (.finishing t) line store s)
    (goes : ∀ s', Stands a k .seeking line store s' → Inevitably Step P s') :
    Inevitably Step P s := by
  refine h.inevitably_of_move fun s h clock => ?_
  have turn : s.controller.turn clock 0 = .moves
      (Controller.enter { s.controller with queue := s.controller.queue.done t } 0 .seeking) [] := by
    unfold Controller.turn
    rw [h.phase]
  refine ⟨_, _, turn, goes _ (h.move turn ?_ h.standard h.tries ?_ ?_)⟩
  · simp [Controller.enter, h.workers]
  · have nobody : s.controller.queue.shared.getters = [] := h.attended
    show (s.controller.queue.shared.done t).getters = []
    unfold SharedQueue.done
    dsimp only
    split <;> simp [SharedQueue.notifyOne, SharedQueue.choose?, nobody]
  · rw [List.filterMap_nil, List.append_nil]
    show Line (s.controller.queue.shared.done t).queue _ _ _ _
    rw [SharedQueue.queue_done]
    exact h.line.done

/-- A request that was worked off well is forgotten. -/
theorem Stands.succeeds {P : Solo → Prop} (h : Stands a k (.settling t (.ok ())) line store s)
    (goes : ∀ s', Stands a (if a = t then 0 else k) .seeking line store s' → Inevitably Step P s') :
    Inevitably Step P s := by
  refine h.inevitably_of_move fun s h clock => ?_
  have turn : s.controller.turn clock 0 = .moves
      (Controller.enter { s.controller with queue := s.controller.queue.forget t } 0
        (.finishing t)) [] := by
    unfold Controller.turn
    rw [h.phase]
    rfl
  have next : Stands a (if a = t then 0 else k) (.finishing t) line store
      ⟨_, s.store, s.later ++ []⟩ :=
    h.move turn (by simp [Controller.enter, h.workers]) (RateQueue.isStandard_forget h.standard t)
      ((RateQueue.retries_forget h.standard t a).trans (by rw [h.tries])) h.attended
      (by rw [List.append_nil]; exact h.line)
  exact ⟨_, _, turn, next.finishes goes⟩

/-- A request that failed is delayed, up to a limit. -/
theorem Stands.fails {P : Solo → Prop} {e : Fault} (few : k ≤ maxRetries) (new : a ∉ line)
    (h : Stands a k (.settling a (.error e)) line store s)
    (goes : ∀ s', Stands a (k + 1) .seeking (line ++ [a]) store s' → Inevitably Step P s') :
    Inevitably Step P s := by
  refine h.inevitably_of_move fun s h clock => ?_
  obtain ⟨-, standard, shared, tries⟩ := RateQueue.nextDelay_spec h.standard clock a
  have turn : s.controller.turn clock 0 = .moves
      (Controller.enter { s.controller with queue := (s.controller.queue.nextDelay clock a).2 } 0
        (.finishing a))
      [.notify (.requeued a.request e), .addLater a (s.controller.queue.nextDelay clock a).1] := by
    unfold Controller.turn
    rw [h.phase]
    simp [Controller.settle, h.tries, few, RateQueue.addAfter_nextDelay h.standard h.line.open_]
  refine ⟨_, _, turn, Stands.finishes (t := a) ?_ goes⟩
  refine h.move turn (by simp [Controller.enter, h.workers]) standard (tries.trans ?_) ?_ ?_
  · rw [h.tries]
    have : k + 1 ≤ Tally.maxCount := Nat.le_trans (Nat.succ_le_succ few) (by decide)
    exact Nat.min_eq_left this
  · show (s.controller.queue.nextDelay clock a).2.shared.Attended _
    rw [shared]
    exact h.attended
  · show Line (s.controller.queue.nextDelay clock a).2.shared.queue _ _ _ _
    rw [shared]
    exact h.line.delay new

/-- A request that failed too often is given up. -/
theorem Stands.gives {P : Solo → Prop} {e : Fault} (many : maxRetries < k)
    (h : Stands a k (.settling a (.error e)) line store s)
    (goes : ∀ s', Stands a 0 .seeking line store s' → Inevitably Step P s') :
    Inevitably Step P s := by
  refine h.inevitably_of_move fun s h clock => ?_
  have turn : s.controller.turn clock 0 = .moves
      (Controller.enter { s.controller with queue := s.controller.queue.forget a } 0
        (.finishing a)) [.notify (.dropped a.request k e)] := by
    unfold Controller.turn
    rw [h.phase]
    simp [Controller.settle, h.tries, Nat.not_le_of_lt many]
  have next : Stands a 0 (.finishing a) line store ⟨_, s.store, s.later ++ []⟩ :=
    h.move turn (by simp [Controller.enter, h.workers]) (RateQueue.isStandard_forget h.standard a)
      ((RateQueue.retries_forget h.standard a a).trans (if_pos rfl)) h.attended
      (by rw [List.append_nil]; exact h.line)
  exact ⟨_, _, turn, next.finishes goes⟩

end Solo

end NetAttach
