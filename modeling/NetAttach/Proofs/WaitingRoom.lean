-- SUMMARY: No getter sleeps beside an item that waits, unless as many woken getters have still to look.
import NetAttach.Proofs.Signals

/-!
# Waiting rooms

Getters come and go at a queue, in any order of their single steps: one registers, looks
at the queue, sleeps, is woken, registers anew and looks again, or is called off while
it sleeps. Meanwhile items are added and marked as done, and the queue is shut down.
These calls change the queue first and signal afterwards, and anything may happen in
between.

A permit is not counted, and a faster getter may take the item that a sleeper was woken
for. Still nobody sleeps beside an item that nobody comes for: as long as there is a
sleeper, each item that waits has its own signal that is still to be given, its own
getter that was chosen, or its own getter that was woken and has not looked since.
-/

namespace NetAttach

/-! ## Sleepers and chosen getters -/

/-- The getter was chosen for an item, and did not take the signal yet. -/
def Getter.chosen (g : Getter) : Nat := if g.signal = some .chosen then 1 else 0

theorem Getter.signal_of_asleep {g : Getter} (asleep : g.asleep = true) : g.signal = none := by
  unfold Getter.asleep at asleep
  cases hs : g.signal <;> simp_all

namespace SharedQueue

variable {α : Type} {q : SharedQueue α} {i : Nat} {g : Getter}

/-- Some getter sleeps. -/
def Sleeps (q : SharedQueue α) : Prop := ∃ g ∈ q.getters, g.asleep = true

/-- How many getters were chosen for an item and did not take the signal yet. -/
def chosen (q : SharedQueue α) : Nat := load Getter.chosen q.getters

/-- A signal puts nobody to sleep. -/
theorem sleeps_of_notifyOne (h : q.notifyOne.Sleeps) : q.Sleeps := by
  obtain ⟨front, g, back, same, -, eq⟩ | ⟨-, eq⟩ := q.notifyOne_cases
  · obtain ⟨g', mem, asleep⟩ := h
    rw [eq] at mem
    obtain mem | rfl | mem : g' ∈ front ∨ g' = { g with signal := some .chosen } ∨ g' ∈ back := by
      simpa using mem
    · exact ⟨g', by simp [same, mem], asleep⟩
    · cases Getter.signal_of_asleep asleep
    · exact ⟨g', by simp [same, mem], asleep⟩
  · rw [eq] at h
    exact h

/-- While somebody sleeps, a signal is not kept as a permit. -/
theorem chosen_notifyOne (h : q.Sleeps) : q.notifyOne.chosen = q.chosen + 1 := by
  obtain ⟨front, g, back, same, unsignalled, eq⟩ | ⟨signalled, -⟩ := q.notifyOne_cases
  · rw [eq, chosen, chosen, same, load_append, load_append, load_cons, load_cons]
    have before : g.chosen = 0 := by simp [Getter.chosen, unsignalled]
    have after : Getter.chosen { g with signal := some .chosen } = 1 := rfl
    omega
  · obtain ⟨g, mem, asleep⟩ := h
    exact absurd (Getter.signal_of_asleep asleep) (signalled g mem)

/-- Nobody sleeps after all have been signalled. -/
theorem not_sleeps_notifyAll (q : SharedQueue α) : ¬q.notifyAll.Sleeps := by
  rintro ⟨g, mem, asleep⟩
  obtain ⟨g', -, rfl⟩ := List.mem_map.1 mem
  cases Getter.signal_of_asleep asleep

theorem sleeps_of_drop (h : (q.drop i).Sleeps) : q.Sleeps := by
  obtain ⟨g, mem, asleep⟩ := h
  exact ⟨g, List.mem_of_mem_eraseP mem, asleep⟩

theorem chosen_drop (found : q.getter? i = some g) : (q.drop i).chosen + g.chosen = q.chosen :=
  load_eraseP found

theorem sleeps_of_leave (h : (q.leave i).Sleeps) : q.Sleeps := by
  unfold leave at h
  split at h
  · split at h
    · exact sleeps_of_drop (sleeps_of_notifyOne h)
    · exact sleeps_of_drop h
  · exact h

/-- Who leaves after it was chosen passes the signal on, if somebody sleeps. -/
theorem chosen_leave (found : q.getter? i = some g) (h : (q.leave i).Sleeps) :
    q.chosen ≤ (q.leave i).chosen := by
  have dropped := chosen_drop found
  unfold leave at h ⊢
  rw [found] at h ⊢
  dsimp only at h ⊢
  split at h
  · next chosen =>
    rw [if_pos chosen, chosen_notifyOne (sleeps_of_notifyOne h)]
    rw [Getter.chosen, if_pos chosen] at dropped
    exact Nat.le_of_eq dropped.symm
  · next unchosen =>
    rw [if_neg unchosen]
    rw [Getter.chosen, if_neg unchosen] at dropped
    exact Nat.le_of_eq dropped.symm

/-- Whoever registers is awake. -/
theorem sleeps_of_register (h : (q.register i).Sleeps) : q.Sleeps := by
  obtain ⟨signal, getters, -⟩ := q.getters_register i
  obtain ⟨g, mem, asleep⟩ := h
  rw [getters] at mem
  obtain mem | mem := List.mem_append.1 mem
  · exact ⟨g, mem, asleep⟩
  · rw [List.mem_singleton.1 mem] at asleep
    cases asleep

theorem chosen_register (q : SharedQueue α) (i : Nat) : (q.register i).chosen = q.chosen := by
  unfold register
  split <;> simp [chosen, Getter.chosen]

variable [DecidableEq α]

/-- What a look can come to: the oldest item, the end of the queue, or nothing. -/
theorem check_cases (q : SharedQueue α) (i : Nat) :
    (∃ x rest, q.queue.take? = some (x, rest)
      ∧ q.check i = (some (.item x), { q with queue := rest }.leave i))
    ∨ (q.queue.waiting = [] ∧ q.queue.closed = true ∧ q.check i = (some .closed, q.leave i))
    ∨ (q.queue.waiting = [] ∧ q.queue.closed = false ∧ (q.check i).1 = none) := by
  unfold check
  cases took : q.queue.take? with
  | some taken => exact .inl ⟨taken.1, taken.2, rfl, rfl⟩
  | none =>
    have empty := WorkQueue.take?_eq_none.1 took
    cases closed : q.queue.closed with
    | true => exact .inr (.inl ⟨empty, rfl, rfl⟩)
    | false => exact .inr (.inr ⟨empty, rfl, rfl⟩)

end SharedQueue

/-! ## Waiting rooms -/

/-- A queue with the calls that are under way at it. -/
structure WaitingRoom (α : Type) where
  shared : SharedQueue α
  /-- The items that started to wait and whose signals are still to be given. -/
  unsignalled : Nat
  /-- The getters that were woken and have not looked since. -/
  woken : List Nat
  /-- A call to shut down the queue has returned. -/
  told : Bool

namespace WaitingRoom

variable {α : Type}

/-- What becomes of an item in one step. -/
inductive Note (α : Type) where
  /-- It starts to wait. -/
  | joins (x : α)
  /-- A getter gets it. -/
  | handed (getter : Nat) (x : α)
  | other
deriving DecidableEq

/-- The item that starts to wait. -/
def Note.joins? : Note α → Option α
  | .joins x => some x
  | _ => none

/-- The item that is handed out, with the getter that gets it. -/
def Note.handed? : Note α → Option (Nat × α)
  | .handed i x => some (i, x)
  | _ => none

/-- What a look does, by what comes of it. -/
def Note.ofLook (i : Nat) : Option (Delivery α) → Note α
  | some (.item x) => .handed i x
  | _ => .other

/-- The items that started to wait, in that order. -/
def joined (ns : List (Note α)) : List α := ns.filterMap Note.joins?

/-- The items that were handed out, in that order, each with the getter that got it. -/
def handed (ns : List (Note α)) : List (Nat × α) := ns.filterMap Note.handed?

def start : WaitingRoom α := ⟨.empty, 0, [], false⟩

/-- The queue itself. -/
def queue (s : WaitingRoom α) : WorkQueue α := s.shared.queue

/-- An item is put into the queue or not. If it starts to wait, its signal is to be given. -/
def put (s : WaitingRoom α) (queue : WorkQueue α) (starts : Bool) : WaitingRoom α :=
  { s with shared := { s.shared with queue }, unsignalled := s.unsignalled + starts.toNat }

/-- No getter that was woken has still to look: none was chosen, and none looks again. -/
structure Settled (s : WaitingRoom α) : Prop where
  chosen : ∀ g ∈ s.shared.getters, g.signal ≠ some .chosen
  woken : s.woken = []

variable [DecidableEq α]

/-- One step of anyone. A call of a getter has a number of its own. -/
inductive Step : WaitingRoom α → Note α → WaitingRoom α → Prop where
  | add (s : WaitingRoom α) (x : α) :
    Step s (if s.queue.enqueues x then .joins x else .other)
      (s.put (s.queue.add x) (s.queue.enqueues x))
  | done (s : WaitingRoom α) (x : α) :
    Step s (if s.queue.releases x then .joins x else .other)
      (s.put (s.queue.done x) (s.queue.releases x))
  /-- A signal for an item that started to wait is given. -/
  | signal {s : WaitingRoom α} {n : Nat} (due : s.unsignalled = n + 1) :
    Step s .other { s with shared := s.shared.notifyOne, unsignalled := n }
  /-- A call to shut down begins. -/
  | close (s : WaitingRoom α) : Step s .other (s.put s.queue.shutDown false)
  /-- A call to shut down signals all and returns. -/
  | tell {s : WaitingRoom α} (closed : s.queue.closed = true) :
    Step s .other { s with shared := s.shared.notifyAll, told := true }
  /-- A getter registers, for the first time or anew. -/
  | register {s : WaitingRoom α} {i : Nat} (away : i ∉ s.shared.ids) :
    Step s .other { s with shared := s.shared.register i }
  | look {s : WaitingRoom α} {i : Nat} {g : Getter} (found : s.shared.getter? i = some g)
    (unchecked : g.checked = false) :
    Step s (.ofLook i (s.shared.check i).1)
      { s with shared := (s.shared.check i).2, woken := s.woken.erase i }
  /-- A sleeper takes its signal. -/
  | wake {s : WaitingRoom α} {i : Nat} {g : Getter} (found : s.shared.getter? i = some g)
    (woken : g.woken = true) :
    Step s .other { s with shared := s.shared.drop i, woken := i :: s.woken }
  /-- A getter is called off after it looked in vain. -/
  | cancel {s : WaitingRoom α} {i : Nat} {g : Getter} (found : s.shared.getter? i = some g)
    (checked : g.checked = true) :
    Step s .other { s with shared := s.shared.leave i }

variable {s t : WaitingRoom α} {n : Note α} {ns : List (Note α)}

/-! ## Calls as a whole -/

/-- To put an item into the queue and to give its signal at once. -/
theorem run_put (x : α) (queue : WorkQueue α) (starts : Bool)
    (first : Step s (if starts then .joins x else .other) (s.put queue starts)) :
    Run Step s (if starts then [.joins x, .other] else [.other])
      { s with shared := if starts then { s.shared with queue }.notifyOne else { s.shared with queue } } := by
  cases starts with
  | true => exact (Run.nil.snoc first).snoc (.signal rfl)
  | false => exact Run.nil.snoc first

theorem run_add (s : WaitingRoom α) (x : α) :
    Run Step s (if s.queue.enqueues x then [.joins x, .other] else [.other])
      { s with shared := s.shared.add x } :=
  run_put x _ _ (.add s x)

theorem run_done (s : WaitingRoom α) (x : α) :
    Run Step s (if s.queue.releases x then [.joins x, .other] else [.other])
      { s with shared := s.shared.done x } :=
  run_put x _ _ (.done s x)

theorem run_shutDown (s : WaitingRoom α) :
    Run Step s [.other, .other] { s with shared := s.shared.shutDown, told := true } :=
  (Run.nil.snoc (.close s)).snoc (.tell rfl)

/-- An item is added or marked as done, or the queue is shut down, by a call that nothing interrupts.
The getters take their single steps all the same. -/
inductive Call : WaitingRoom α → List (Note α) → WaitingRoom α → Prop where
  | add (s : WaitingRoom α) (x : α) : Call s (if s.queue.enqueues x then [.joins x, .other] else [.other])
      { s with shared := s.shared.add x }
  | done (s : WaitingRoom α) (x : α) :
    Call s (if s.queue.releases x then [.joins x, .other] else [.other])
      { s with shared := s.shared.done x }
  | shutDown (s : WaitingRoom α) :
    Call s [.other, .other] { s with shared := s.shared.shutDown, told := true }
  | getter {s : WaitingRoom α} {n : Note α} {t : WaitingRoom α} (step : Step s n t)
    (signals : t.unsignalled = s.unsignalled) : Call s [n] t

theorem Call.run (call : Call s ns t) : Run Step s ns t ∧ t.unsignalled = s.unsignalled := by
  cases call with
  | add x => exact ⟨run_add s x, rfl⟩
  | done x => exact ⟨run_done s x, rfl⟩
  | shutDown => exact ⟨run_shutDown s, rfl⟩
  | getter step signals => exact ⟨Run.nil.snoc step, signals⟩

/-- Between calls that nothing interrupts no signal is to be given. -/
theorem run_of_calls {calls : List (List (Note α))} (h : Run Call s calls t) :
    Run Step s calls.flatten t ∧ t.unsignalled = s.unsignalled := by
  induction h with
  | nil => exact ⟨.nil, rfl⟩
  | snoc _ call ih =>
    obtain ⟨run, same⟩ := ih
    obtain ⟨more, same'⟩ := call.run
    rw [List.flatten_append, List.flatten_singleton]
    exact ⟨run.trans more, same'.trans same⟩

/-! ## What starts to wait -/

theorem waiting_add (q : WorkQueue α) (x : α) :
    (q.add x).waiting = q.waiting ++ if q.enqueues x then [x] else [] := by
  split
  · next starts =>
    obtain ⟨accepts, idle⟩ : q.accepts x = true ∧ x ∉ q.processing := by
      simpa [WorkQueue.enqueues] using starts
    simp [WorkQueue.add, accepts, idle]
  · next stays => rw [WorkQueue.waiting_add stays, List.append_nil]

theorem waiting_done (q : WorkQueue α) (x : α) :
    (q.done x).waiting = q.waiting ++ if q.releases x then [x] else [] := by
  unfold WorkQueue.done
  split <;> simp [*]

/-! ## No lost wakeup -/

/-- The signals that are to be given, the getters that are chosen, and those that were woken and
have not looked since. -/
def covered (s : WaitingRoom α) : Nat := s.unsignalled + s.shared.chosen + s.woken.length

/-- While somebody sleeps, each item that waits has a signal or a getter of its own. -/
structure Accounted (s : WaitingRoom α) : Prop where
  waiting : s.shared.Sleeps → s.queue.waiting.length ≤ s.covered
  told : s.told = true → s.queue.closed = true ∧ ¬s.shared.Sleeps

omit [DecidableEq α] in
theorem accounted_start : (start : WaitingRoom α).Accounted :=
  ⟨fun _ => Nat.le_refl 0, nofun⟩

omit [DecidableEq α] in
/-- Nobody falls asleep, and no more items start to wait than are covered in addition. -/
theorem Accounted.of_sleeps (h : s.Accounted) (told : t.told = s.told)
    (closed : s.queue.closed = true → t.queue.closed = true)
    (sleeps : t.shared.Sleeps → s.shared.Sleeps)
    (count : t.shared.Sleeps →
      t.queue.waiting.length + s.covered ≤ s.queue.waiting.length + t.covered) : t.Accounted := by
  refine ⟨fun slept => ?_, fun shut => ?_⟩
  · have before := h.waiting (sleeps slept)
    have := count slept
    omega
  · obtain ⟨shut, awake⟩ := h.told (told ▸ shut)
    exact ⟨closed shut, fun slept => awake (sleeps slept)⟩

omit [DecidableEq α] in
/-- The queue is left alone, and as much is covered as before. -/
theorem Accounted.of_same_queue (h : s.Accounted) (told : t.told = s.told) (queue : t.queue = s.queue)
    (sleeps : t.shared.Sleeps → s.shared.Sleeps) (count : t.shared.Sleeps → s.covered ≤ t.covered) :
    t.Accounted := by
  refine h.of_sleeps told (fun shut => queue ▸ shut) sleeps fun slept => ?_
  rw [queue]
  exact Nat.add_le_add_left (count slept) _

omit [DecidableEq α] in
/-- An item that starts to wait has its signal to be given. -/
theorem Accounted.put (h : s.Accounted) {queue : WorkQueue α} {starts : Bool} {x : α}
    (waiting : queue.waiting = s.queue.waiting ++ if starts then [x] else [])
    (closed : s.queue.closed = true → queue.closed = true) : (s.put queue starts).Accounted := by
  refine h.of_sleeps rfl closed id fun _ => ?_
  show queue.waiting.length + (s.unsignalled + s.shared.chosen + s.woken.length)
    ≤ _ + (s.unsignalled + starts.toNat + s.shared.chosen + s.woken.length)
  rw [waiting]
  cases starts with
  | true =>
    simp only [if_true, List.length_append, List.length_singleton, Bool.toNat_true]
    omega
  | false => simp

/-- A look takes an item, or finds that nothing waits. -/
theorem Accounted.look (h : s.Accounted) {i : Nat} {g : Getter}
    (found : s.shared.getter? i = some g) :
    Accounted { s with shared := (s.shared.check i).2, woken := s.woken.erase i } := by
  obtain ⟨x, rest, took, look⟩ | ⟨empty, closed, look⟩ | ⟨empty, open_, nothing⟩ :=
    s.shared.check_cases i
  · obtain ⟨waiting, -, -, closed⟩ := WorkQueue.take?_eq_some took
    have same : ({ s.shared with queue := rest }.leave i).queue = rest := SharedQueue.queue_leave _ i
    have fewer : s.woken.length ≤ (s.woken.erase i).length + 1 := by
      rw [List.length_erase]
      split <;> omega
    rw [look]
    refine h.of_sleeps rfl (fun shut => ?_) SharedQueue.sleeps_of_leave fun sleeps => ?_
    · exact (congrArg WorkQueue.closed same).trans (closed.trans shut)
    · have chosen : s.shared.chosen ≤ ({ s.shared with queue := rest }.leave i).chosen :=
        SharedQueue.chosen_leave (q := { s.shared with queue := rest }) found sleeps
      have length : s.queue.waiting.length = rest.waiting.length + 1 := congrArg List.length waiting
      show ({ s.shared with queue := rest }.leave i).queue.waiting.length
        + (s.unsignalled + s.shared.chosen + s.woken.length) ≤ _
          + (s.unsignalled + ({ s.shared with queue := rest }.leave i).chosen + (s.woken.erase i).length)
      rw [same]
      omega
  · have same : (s.shared.leave i).queue = s.shared.queue := SharedQueue.queue_leave _ i
    rw [look]
    refine ⟨fun _ => ?_, fun told => ⟨?_, fun sleeps => ?_⟩⟩
    · show (s.shared.leave i).queue.waiting.length ≤ _
      rw [same, empty]
      exact Nat.zero_le _
    · exact (congrArg WorkQueue.closed same).trans closed
    · exact (h.told told).2 (SharedQueue.sleeps_of_leave sleeps)
  · -- the getter falls asleep, and nothing waits
    obtain ⟨x, got, -⟩ | ⟨-, -, same⟩ := s.shared.queue_check i
    · rw [nothing] at got
      cases got
    · refine ⟨fun _ => ?_, fun told => ?_⟩
      · show (s.shared.check i).2.queue.waiting.length ≤ _
        rw [same, empty]
        exact Nat.zero_le _
      · have shut : s.shared.queue.closed = true := (h.told told).1
        rw [open_] at shut
        cases shut

theorem Accounted.step (h : s.Accounted) (step : Step s n t) : t.Accounted := by
  cases step with
  | add x => exact h.put (waiting_add _ x) fun shut => by simp [shut]
  | done x => exact h.put (waiting_done _ x) fun shut => shut
  | close => exact h.of_sleeps rfl (fun _ => rfl) id fun _ => Nat.le_refl _
  | @signal n due =>
    refine h.of_same_queue rfl (SharedQueue.queue_notifyOne _) SharedQueue.sleeps_of_notifyOne
      fun sleeps => ?_
    have more := SharedQueue.chosen_notifyOne (SharedQueue.sleeps_of_notifyOne sleeps)
    show s.unsignalled + s.shared.chosen + s.woken.length ≤ n + s.shared.notifyOne.chosen + s.woken.length
    omega
  | tell closed =>
    have awake := s.shared.not_sleeps_notifyAll
    exact ⟨fun sleeps => absurd sleeps awake, fun _ => ⟨closed, awake⟩⟩
  | @register i away =>
    refine h.of_same_queue rfl (SharedQueue.queue_register _ i) SharedQueue.sleeps_of_register fun _ => ?_
    show _ ≤ s.unsignalled + (s.shared.register i).chosen + s.woken.length
    rw [SharedQueue.chosen_register]
    exact Nat.le_refl _
  | look found => exact h.look found
  | @wake i g found woken =>
    -- a getter that was chosen is counted among the woken ones from now on
    refine h.of_same_queue rfl rfl SharedQueue.sleeps_of_drop fun _ => ?_
    have dropped := SharedQueue.chosen_drop found
    have one : g.chosen ≤ 1 := by
      unfold Getter.chosen
      split <;> omega
    show s.unsignalled + s.shared.chosen + s.woken.length
      ≤ s.unsignalled + (s.shared.drop i).chosen + (s.woken.length + 1)
    omega
  | @cancel i g found checked =>
    refine h.of_same_queue rfl (SharedQueue.queue_leave _ i) SharedQueue.sleeps_of_leave fun sleeps => ?_
    have kept := SharedQueue.chosen_leave found sleeps
    show s.unsignalled + s.shared.chosen + s.woken.length
      ≤ s.unsignalled + (s.shared.leave i).chosen + s.woken.length
    omega

/-! ## Each item goes to one getter -/

/-- What starts to wait joins the line at its end, and what is handed out leaves it at its head. -/
theorem Step.line (h : Step s n t) :
    s.queue.waiting ++ n.joins?.toList = n.handed?.toList.map Prod.snd ++ t.queue.waiting := by
  cases h with
  | add x =>
    show s.queue.waiting ++ _ = _ ++ (s.queue.add x).waiting
    rw [waiting_add]
    split <;> rfl
  | done x =>
    show s.queue.waiting ++ _ = _ ++ (s.queue.done x).waiting
    rw [waiting_done]
    split <;> rfl
  | @signal n due =>
    show s.queue.waiting ++ [] = s.shared.notifyOne.queue.waiting
    rw [SharedQueue.queue_notifyOne, List.append_nil]
    rfl
  | @register i away =>
    show s.queue.waiting ++ [] = (s.shared.register i).queue.waiting
    rw [SharedQueue.queue_register, List.append_nil]
    rfl
  | @look i g found unchecked =>
    show s.shared.queue.waiting ++ _ = _ ++ (s.shared.check i).2.queue.waiting
    obtain ⟨x, got, took⟩ | ⟨vain, -, same⟩ := s.shared.queue_check i
    · obtain ⟨waiting, -⟩ := WorkQueue.take?_eq_some took
      rw [got, waiting]
      exact List.append_nil _
    · have nothing : Note.ofLook i (s.shared.check i).1 = .other := by
        unfold Note.ofLook
        split
        · next x got => exact absurd got (vain x)
        · rfl
      rw [nothing, same]
      exact List.append_nil _
  | @cancel i g found checked =>
    show s.queue.waiting ++ [] = (s.shared.leave i).queue.waiting
    rw [SharedQueue.queue_leave, List.append_nil]
    rfl
  | close | tell closed | wake found woken => exact List.append_nil _

theorem line_of_run (h : Run Step (start : WaitingRoom α) ns s) :
    joined ns = (handed ns).map Prod.snd ++ s.queue.waiting := by
  refine h.invariant_with (I := fun ns s => joined ns = (handed ns).map Prod.snd ++ s.queue.waiting)
    (fun {ns t n u} before step => ?_) rfl
  have line := step.line
  have joins : joined (ns ++ [n]) = joined ns ++ n.joins?.toList := by
    unfold joined
    cases h : n.joins? <;> simp [h]
  have hands : handed (ns ++ [n]) = handed ns ++ n.handed?.toList := by
    unfold handed
    cases h : n.handed? <;> simp [h]
  rw [joins, hands, before, List.append_assoc, line, List.map_append, List.append_assoc]

/-! ## The result -/

omit [DecidableEq α] in
theorem Settled.chosen_eq (h : s.Settled) : s.shared.chosen = 0 := by
  refine Nat.eq_zero_of_not_pos fun some => ?_
  obtain ⟨g, mem, pos⟩ := exists_of_load some
  rw [Getter.chosen, if_neg (h.chosen g mem)] at pos
  cases pos

/-- Whatever getters, additions, completions and calls to shut down do in whatever order: while some
getter sleeps, no more items wait than signals are still to be given, getters are chosen, and getters
were woken and have not looked since. So when no woken getter has still to look and each item that
started to wait has been signalled, nobody sleeps while an item waits. Nobody sleeps either once a
call to shut down has returned. The items that started to wait are, in this order, those that were
handed out, each to one getter, and those that wait. If nothing interrupts a call that adds an item
or marks it as done, each item that started to wait has been signalled. -/
theorem no_wakeup_is_lost :
    (∀ (ns : List (Note α)) (s : WaitingRoom α), Run Step start ns s →
      (s.shared.Sleeps → s.queue.waiting.length ≤ s.covered)
      ∧ (s.Settled → s.unsignalled = 0 → s.queue.waiting ≠ [] → ¬s.shared.Sleeps)
      ∧ (s.told = true → ¬s.shared.Sleeps)
      ∧ joined ns = (handed ns).map Prod.snd ++ s.queue.waiting)
    ∧ ∀ (calls : List (List (Note α))) (s : WaitingRoom α), Run Call start calls s →
      Run Step start calls.flatten s ∧ s.unsignalled = 0
        ∧ (s.Settled → s.queue.waiting ≠ [] → ¬s.shared.Sleeps) := by
  have steps (ns : List (Note α)) (s : WaitingRoom α) (h : Run Step start ns s) : s.Accounted :=
    h.invariant Accounted.step accounted_start
  have attended {s : WaitingRoom α} (h : s.Accounted) (settled : s.Settled) (given : s.unsignalled = 0)
      (waits : s.queue.waiting ≠ []) : ¬s.shared.Sleeps := by
    intro sleeps
    have none := h.waiting sleeps
    rw [covered, given, settled.chosen_eq, settled.woken] at none
    exact waits (List.length_eq_zero_iff.1 (Nat.le_zero.1 none))
  refine ⟨fun ns s h => ?_, fun calls s h => ?_⟩
  · have accounted := steps ns s h
    exact ⟨accounted.waiting, attended accounted, fun told => (accounted.told told).2, line_of_run h⟩
  · obtain ⟨run, given⟩ := run_of_calls h
    exact ⟨run, given, fun settled => attended (steps _ s run) settled given⟩

/-- Of two sleepers the one that is chosen is called off, so that the signal is passed on. A third
getter takes the item before the other sleeper has looked, which then sleeps on. -/
theorem sleeper_sleeps_on_after_theft :
    ∃ (s : WaitingRoom Nat) (ns : List (Note Nat)), Run Step start ns s
      ∧ s.shared.ids = [1] ∧ s.shared.Sleeps ∧ s.queue.waiting = []
      ∧ joined ns = [7] ∧ handed ns = [(2, 7)] := by
  have asleep := Run.nil
    |>.snoc (Step.register (s := (start : WaitingRoom Nat)) (i := 0) (by decide))
    |>.snoc (Step.look (i := 0) rfl rfl)
    |>.snoc (Step.register (i := 1) (by decide))
    |>.snoc (Step.look (i := 1) rfl rfl)
  have passedOn := asleep
    |>.snoc (Step.add _ 7)
    |>.snoc (Step.signal rfl)
    |>.snoc (Step.cancel (i := 0) rfl rfl)
  have run := passedOn
    |>.snoc (Step.register (i := 2) (by decide))
    |>.snoc (Step.look (i := 2) rfl rfl)
    |>.snoc (Step.wake (i := 1) rfl rfl)
    |>.snoc (Step.register (i := 1) (by decide))
    |>.snoc (Step.look (i := 1) rfl rfl)
  let s : WaitingRoom Nat := ⟨⟨⟨[], [], [7], false⟩, false, [⟨1, true, none⟩]⟩, 0, [], false⟩
  have sleeps : s.shared.Sleeps := ⟨⟨1, true, none⟩, List.mem_singleton.2 rfl, rfl⟩
  refine ⟨s, _, run, rfl, sleeps, Decidable.byContradiction fun waits => ?_, rfl, rfl⟩
  exact (no_wakeup_is_lost.1 _ s run).2.1 ⟨by decide, rfl⟩ rfl waits sleeps

end WaitingRoom

end NetAttach
