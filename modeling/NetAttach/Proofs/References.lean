-- SUMMARY: All tasks at a pod are at its one lock, which is forgotten when nothing but the map refers to it.
import NetAttach.Proofs.Locks

/-!
# References to locks

A lock is referred to by the map of the pods and by every task that waits for it or holds
it. Only the number of references tells whether it can be forgotten. A task has its
reference before it is in line, so that those who wait may overtake each other on their way.
The number is always that of the tasks at the lock and one for the map, whatever the order
of the steps, so that to go by the number is to look whether the line is empty.
-/

namespace NetAttach.Locks

variable {l : Locks} {stage : Nat → LockStage}

theorem entries_request (l : Locks) (pod : ObjectKey) (task : Nat) (p : ObjectKey) :
    (l.request pod task).2.entries.get? p
      = if p = pod then some (l.request pod task).1 else l.entries.get? p := by
  unfold request
  cases found : l.entries.get? pod with
  | some lock =>
    by_cases here : p = pod
    · rw [if_pos here, here]
      exact found
    · rw [if_neg here]
  | none => exact Keyed.get?_put ..

/-- Nobody is in line at a lock that is not made yet. -/
theorem Sound.line_fresh (h : l.Sound stage) : l.line l.fresh = [] := by
  refine List.eq_nil_iff_forall_not_mem.2 fun task mem => ?_
  obtain ⟨pod, inLine⟩ := h.mem_line.1 mem
  exact Nat.lt_irrefl _ (h.old (h.entry inLine))

theorem Sound.line_request (h : l.Sound stage) (pod : ObjectKey) (task lock : Nat) :
    (l.request pod task).2.line lock
      = if lock = (l.request pod task).1 then l.line lock ++ [task] else l.line lock := by
  unfold request
  cases l.entries.get? pod with
  | some known =>
    refine (line_put ..).trans ?_
    split
    · next here => rw [here]
    · rfl
  | none =>
    unfold line
    dsimp only
    rw [Keyed.get?_put]
    split
    · next here => rw [here]; exact congrArg (· ++ [task]) h.line_fresh.symm
    · rfl

/-- The locks with the tasks at them and the number of references to each lock. -/
structure Counted where
  locks : Locks
  stage : Nat → LockStage
  references : Nat → Nat

/-- What is done at the locks. -/
inductive Act where
  /-- A task finds or makes the lock of a pod and takes a reference to it. -/
  | ask (task : Nat) (pod : ObjectKey)
  /-- Some who wait for a lock change their places in line. -/
  | overtake (lock : Nat)
  | grant (task : Nat)
  /-- A task lets go of a lock and drops its reference. -/
  | release (task : Nat)
  | sweep (task : Nat)

namespace Counted

def empty : Counted := ⟨.empty, fun _ => .away, fun _ => 0⟩

/-- A task enters a stage. -/
def enter (s : Counted) (task : Nat) (stage : LockStage) : Counted :=
  { s with stage := fun i => if i = task then stage else s.stage i }

/-- The number of references to one lock is changed. -/
def recount (s : Counted) (lock count : Nat) : Counted :=
  { s with references := fun i => if i = lock then count else s.references i }

/-- A reference to the lock of a pod is taken. The map and the one who asked refer to a new lock. -/
def refer (s : Counted) (pod : ObjectKey) : Counted :=
  match s.locks.entries.get? pod with
  | some lock => s.recount lock (s.references lock + 1)
  | none => s.recount s.locks.fresh 2

/-- Forget the lock of a pod if nothing but the map refers to it. -/
def forget (s : Counted) (pod : ObjectKey) : Counted :=
  match s.locks.entries.get? pod with
  | some lock =>
    if s.references lock = 1 then
      { s.recount lock 0 with locks := { s.locks with entries := s.locks.entries.erase pod } }
    else s
  | none => s

/-- One step of a task, or of those who wait. -/
inductive Step (s : Counted) : Act → Counted → Prop where
  | ask {task : Nat} (pod : ObjectKey) (away : s.stage task = .away) :
    Step s (.ask task pod) ({ s.refer pod with locks := (s.locks.request pod task).2 }.enter task
      (.waiting pod (s.locks.request pod task).1))
  | overtake {lock : Nat} {line : List Nat} (same : line.Perm (s.locks.line lock))
    (stays : ∀ task pod, s.stage task = .holding pod lock → line.head? = some task) :
    Step s (.overtake lock) { s with locks := { s.locks with lines := s.locks.lines.put lock line } }
  | grant {task lock : Nat} {pod : ObjectKey} (waiting : s.stage task = .waiting pod lock)
    (first : s.locks.holds lock task = true) : Step s (.grant task) (s.enter task (.holding pod lock))
  | release {task lock : Nat} {pod : ObjectKey} (holding : s.stage task = .holding pod lock) :
    Step s (.release task)
      ({ s.recount lock (s.references lock - 1) with locks := s.locks.release lock task }.enter task
        (.leaving pod))
  | sweep {task : Nat} {pod : ObjectKey} (leaving : s.stage task = .leaving pod) :
    Step s (.sweep task) ((s.forget pod).enter task .away)

/-! ## What the number of references tells -/

/-- The tasks are in line at the locks of the map, and the numbers of references are right. -/
structure Sound (s : Counted) : Prop where
  lined : s.locks.Sound s.stage
  /-- The map and each task in line refer to a lock once. -/
  counted : ∀ {pod lock}, s.locks.entries.get? pod = some lock →
    s.references lock = (s.locks.line lock).length + 1
  /-- Nothing refers to a lock that is not in the map. -/
  dropped : ∀ {lock}, (∀ pod, s.locks.entries.get? pod ≠ some lock) → s.references lock = 0

theorem sound_empty : empty.Sound := ⟨Locks.sound_empty, nofun, fun _ => rfl⟩

theorem stage_refer (s : Counted) (pod : ObjectKey) : (s.refer pod).stage = s.stage := by
  unfold refer
  split <;> rfl

theorem stage_forget (s : Counted) (pod : ObjectKey) : (s.forget pod).stage = s.stage := by
  unfold forget
  split
  · split <;> rfl
  · rfl

/-- The lock of a pod stays as it is, or it is forgotten because nothing but the map refers to it. -/
theorem forget_cases (s : Counted) (pod : ObjectKey) : s.forget pod = s
    ∨ ∃ lock, s.locks.entries.get? pod = some lock ∧ s.references lock = 1 ∧ s.forget pod
      = { s.recount lock 0 with locks := { s.locks with entries := s.locks.entries.erase pod } } := by
  unfold forget
  cases found : s.locks.entries.get? pod with
  | none => exact .inl rfl
  | some lock =>
    by_cases last : s.references lock = 1
    · exact .inr ⟨lock, rfl, last, if_pos last⟩
    · exact .inl (if_neg last)

namespace Sound

variable {s t : Counted} {a : Act} {task lock : Nat} {pod : ObjectKey}

/-- The one who asked refers to the lock, and so does the map, which may have done so before. -/
theorem references_refer (h : s.Sound) (pod : ObjectKey) (task lock : Nat) :
    (s.refer pod).references lock = if lock = (s.locks.request pod task).1
      then (s.locks.line lock).length + 2 else s.references lock := by
  unfold refer request
  cases found : s.locks.entries.get? pod with
  | some known =>
    by_cases here : lock = known
    · simp [recount, here, h.counted found]
    · simp [recount, here]
  | none =>
    by_cases here : lock = s.locks.fresh
    · simp [recount, here, h.lined.line_fresh]
    · simp [recount, here]

/-- To go by the number of references is to look whether the line is empty. -/
theorem forget_locks (h : s.Sound) (pod : ObjectKey) : (s.forget pod).locks = s.locks.sweep pod := by
  unfold forget sweep
  cases found : s.locks.entries.get? pod with
  | none => rfl
  | some lock =>
    have alone : s.references lock = 1 ↔ s.locks.line lock = [] := by
      rw [h.counted found, Nat.add_eq_right, List.length_eq_zero_iff]
    dsimp only
    by_cases last : s.references lock = 1
    · rw [if_pos last, if_pos (alone.1 last)]
    · rw [if_neg last, if_neg (mt alone.2 last)]

theorem ask (h : s.Sound) (away : s.stage task = .away) (pod : ObjectKey) :
    Sound ({ s.refer pod with locks := (s.locks.request pod task).2 }.enter task
      (.waiting pod (s.locks.request pod task).1)) := by
  have asks : Locks.Step s.locks task (s.stage task) (s.locks.request pod task).2
      (.waiting pod (s.locks.request pod task).1) := away ▸ .ask pod
  refine ⟨h.lined.step asks fun i => ?_, fun {p k} known => ?_, fun {k} gone => ?_⟩
  · change (if i = task then _ else (s.refer pod).stage i) = _
    rw [stage_refer]
  · change (s.locks.request pod task).2.entries.get? p = some k at known
    change (s.refer pod).references k = ((s.locks.request pod task).2.line k).length + 1
    rw [h.references_refer pod task, h.lined.line_request]
    rw [entries_request] at known
    by_cases here : k = (s.locks.request pod task).1
    · rw [if_pos here, if_pos here, List.length_append, List.length_singleton]
    · rw [if_neg here, if_neg here]
      split at known
      · exact absurd (Option.some.inj known).symm here
      · exact h.counted known
  · change ∀ p, (s.locks.request pod task).2.entries.get? p ≠ some k at gone
    have other : k ≠ (s.locks.request pod task).1 := by
      rintro rfl
      exact gone pod (by rw [entries_request, if_pos rfl])
    change (s.refer pod).references k = 0
    rw [h.references_refer pod task, if_neg other]
    refine h.dropped fun p known => gone p ?_
    rw [entries_request]
    split
    · next here =>
      subst here
      rw [request, known]
    · exact known

/-- Those who wait may stand in line in any order. -/
theorem overtake (h : s.Sound) {line : List Nat} (same : line.Perm (s.locks.line lock))
    (stays : ∀ task pod, s.stage task = .holding pod lock → line.head? = some task) :
    Sound { s with locks := { s.locks with lines := s.locks.lines.put lock line } } := by
  have perm (k : Nat) :
      (Locks.line { s.locks with lines := s.locks.lines.put lock line } k).Perm (s.locks.line k) := by
    rw [line_put]
    split
    · next here => exact here ▸ same
    · exact .refl _
  refine ⟨{ h.lined with mem_line := ?_, nodup := ?_, first := ?_ }, fun known => ?_, h.dropped⟩
  · exact (perm _).mem_iff.trans h.lined.mem_line
  · exact fun k => (perm k).nodup_iff.2 (h.lined.nodup k)
  · intro task pod k holding
    rw [line_put]
    split
    · next here => exact stays task pod (here ▸ holding)
    · exact h.lined.first holding
  · exact (h.counted known).trans (by rw [(perm _).length_eq])

theorem grant (h : s.Sound) (waiting : s.stage task = .waiting pod lock)
    (first : s.locks.holds lock task = true) : (s.enter task (.holding pod lock)).Sound := by
  have grants : Locks.Step s.locks task (s.stage task) s.locks (.holding pod lock) :=
    waiting ▸ .grant first
  exact ⟨h.lined.step grants fun _ => rfl, h.counted, h.dropped⟩

theorem release (h : s.Sound) (holding : s.stage task = .holding pod lock) :
    Sound ({ s.recount lock (s.references lock - 1) with locks := s.locks.release lock task }.enter task
      (.leaving pod)) := by
  have releases : Locks.Step s.locks task (s.stage task) (s.locks.release lock task) (.leaving pod) :=
    holding ▸ .release pod lock
  have entry : s.locks.entries.get? pod = some lock := h.lined.entry (.inr holding)
  refine ⟨h.lined.step releases fun _ => rfl, fun {p k} known => ?_, fun {k} gone => ?_⟩
  · have known : s.locks.entries.get? p = some k := known
    dsimp only [enter, recount]
    rw [line_release]
    by_cases here : k = lock
    · have inLine : task ∈ s.locks.line lock := h.lined.mem_line.2 ⟨pod, .inr holding⟩
      rw [if_pos here, if_pos here, h.counted entry, List.length_erase_of_mem inLine]
      have some_one := List.length_pos_of_mem inLine
      omega
    · rw [if_neg here, if_neg here, h.counted known]
  · have other : k ≠ lock := fun same => gone pod (same ▸ entry)
    exact (if_neg other).trans (h.dropped gone)

theorem sweep (h : s.Sound) (leaving : s.stage task = .leaving pod) :
    ((s.forget pod).enter task .away).Sound := by
  have sweeps : Locks.Step s.locks task (s.stage task) (s.forget pod).locks .away := by
    rw [leaving, h.forget_locks]
    exact .sweep pod
  have lined : (s.forget pod).locks.Sound ((s.forget pod).enter task .away).stage := by
    refine h.lined.step sweeps fun i => ?_
    change (if i = task then _ else (s.forget pod).stage i) = _
    rw [stage_forget]
  obtain same | ⟨lock, found, -, forgotten⟩ := s.forget_cases pod
  · rw [same] at lined ⊢
    exact ⟨lined, h.counted, h.dropped⟩
  · rw [forgotten] at lined ⊢
    refine ⟨lined, fun {p k} known => ?_, fun {k} gone => ?_⟩
    · change (s.locks.entries.erase pod).get? p = some k at known
      rw [Keyed.get?_erase] at known
      split at known
      · cases known
      · next elsewhere =>
        have other : k ≠ lock := fun same => elsewhere (h.lined.inj (same ▸ known) found)
        exact (if_neg other).trans (h.counted known)
    · change ∀ p, (s.locks.entries.erase pod).get? p ≠ some k at gone
      change (if k = lock then 0 else s.references k) = 0
      split
      · rfl
      · next other =>
        refine h.dropped fun p known => gone p ?_
        rw [Keyed.get?_erase, if_neg]
        · exact known
        · rintro rfl
          exact other (Option.some.inj (known.symm.trans found))

theorem step (h : s.Sound) (step : Step s a t) : t.Sound := by
  cases step with
  | ask pod away => exact h.ask away pod
  | overtake same stays => exact h.overtake same stays
  | grant waiting first => exact h.grant waiting first
  | release holding => exact h.release holding
  | sweep leaving => exact h.sweep leaving

/-- Who waits while nobody holds the lock of its pod is behind nobody but those who wait too. -/
theorem first_waits (h : s.Sound) (waiting : s.stage task = .waiting pod lock)
    (free : ∀ other lock', s.stage other ≠ .holding pod lock') :
    ∃ first, s.stage first = .waiting pod lock ∧ s.locks.holds lock first = true := by
  have inLine : task ∈ s.locks.line lock := h.lined.mem_line.2 ⟨pod, .inl waiting⟩
  obtain ⟨first, rest, line⟩ := List.exists_cons_of_ne_nil (List.ne_nil_of_mem inLine)
  obtain ⟨pod', there⟩ := h.lined.mem_line.1 (show first ∈ s.locks.line lock by rw [line]; simp)
  obtain rfl := h.lined.inj (h.lined.entry there) (h.lined.entry (.inl waiting))
  refine ⟨first, ?_, by simp [holds, line]⟩
  obtain waits | holding := there
  · exact waits
  · exact absurd holding (free first lock)

end Sound

theorem sound_of_run {acts : List Act} {s : Counted} (run : Run Step empty acts s) : s.Sound :=
  run.invariant (fun sound step => sound.step step) sound_empty

/-- Let any tasks ask for the locks of any pods, be granted them, let go of them and sweep, in any order.
Then all who wait for the lock of a pod or hold it are at the lock that the map has for the pod, and
at most one of them holds it. Who waits is in line with tasks at the same pod only, and while none of
these holds the lock, one can be granted it. To each lock in the map there is one reference more than
there are tasks at it, and there is none to any other, so that to forget a lock to which nothing but the
map refers is to forget it when nobody is in line. The map has no lock of a pod at which no task is and
which no task is about to sweep. -/
theorem pod_has_one_lock {acts : List Act} {s : Counted} (run : Run Step empty acts s) :
    (∀ task pod lock, (s.stage task).InLine pod lock → s.locks.entries.get? pod = some lock)
    ∧ (∀ task task' pod lock lock', s.stage task = .holding pod lock →
        s.stage task' = .holding pod lock' → task = task')
    ∧ (∀ task pod lock, s.stage task = .waiting pod lock →
        (∀ other ∈ s.locks.line lock, (s.stage other).InLine pod lock)
        ∧ ((∀ other lock', s.stage other ≠ .holding pod lock') →
            ∃ first s', s.stage first = .waiting pod lock ∧ Step s (.grant first) s'
              ∧ s'.stage first = .holding pod lock))
    ∧ (∀ lock, (∀ pod, s.locks.entries.get? pod = some lock →
          s.references lock = (s.locks.line lock).length + 1 ∧ (s.locks.line lock).Nodup
          ∧ ∀ task, task ∈ s.locks.line lock ↔ (s.stage task).InLine pod lock)
        ∧ ((∀ pod, s.locks.entries.get? pod ≠ some lock) → s.references lock = 0))
    ∧ (∀ pod, (s.forget pod).locks = s.locks.sweep pod)
    ∧ (∀ pod, (∀ task, s.stage task ≠ .leaving pod ∧ ∀ lock, ¬(s.stage task).InLine pod lock) →
        s.locks.entries.get? pod = none) := by
  have sound := sound_of_run run
  have lined {task lock pod pod'} (here : s.locks.entries.get? pod = some lock)
      (inLine : (s.stage task).InLine pod' lock) : pod' = pod :=
    sound.lined.inj (sound.lined.entry inLine) here
  refine ⟨fun _ _ _ => sound.lined.entry, fun _ _ _ _ _ => sound.lined.holder_unique,
    fun task pod lock waiting => ⟨fun other mem => ?_, fun free => ?_⟩,
    fun lock => ⟨fun pod here => ⟨sound.counted here, sound.lined.nodup lock, fun task => ?_⟩,
      sound.dropped⟩, sound.forget_locks, fun pod idle => ?_⟩
  · obtain ⟨pod', inLine⟩ := sound.lined.mem_line.1 mem
    exact lined (sound.lined.entry (.inl waiting)) inLine ▸ inLine
  · obtain ⟨first, waits, holds⟩ := sound.first_waits waiting free
    exact ⟨first, _, waits, .grant waits holds, if_pos rfl⟩
  · refine sound.lined.mem_line.trans ⟨?_, fun inLine => ⟨pod, inLine⟩⟩
    rintro ⟨pod', inLine⟩
    exact lined here inLine ▸ inLine
  · refine Option.eq_none_iff_forall_ne_some.2 fun lock known => ?_
    obtain ⟨task, inLine | leaving⟩ := sound.lined.used known
    · exact (idle task).2 lock inLine
    · exact (idle task).1 leaving

/-- Between letting go of a lock and sweeping, a task is overtaken by two others: one takes the same lock
and sweeps it away, the other makes the next lock of the pod, which the late sweep leaves alone. -/
theorem late_sweep_spares_the_next_lock :
    let pod : ObjectKey := ⟨"ns1", "pod1"⟩
    ∃ s, Run Step empty [.ask 0 pod, .grant 0, .release 0, .ask 1 pod, .grant 1, .release 1, .sweep 1,
        .ask 2 pod, .sweep 0] s
      ∧ s.stage 0 = .away ∧ s.stage 2 = .waiting pod 1 ∧ s.locks.entries.get? pod = some 1
      ∧ s.references 0 = 0 ∧ s.references 1 = 2
      ∧ ∃ first s', s.stage first = .waiting pod 1 ∧ Step s (.grant first) s'
        ∧ s'.stage first = .holding pod 1 := by
  intro pod
  have start : Run Step empty [] empty := .nil
  have late := ((start.snoc (@Step.ask _ 0 pod rfl)).snoc (@Step.grant _ 0 0 pod rfl rfl)).snoc
    (@Step.release _ 0 0 pod rfl)
  have swept := (((late.snoc (@Step.ask _ 1 pod rfl)).snoc (@Step.grant _ 1 0 pod rfl rfl)).snoc
    (@Step.release _ 1 0 pod rfl)).snoc (@Step.sweep _ 1 pod rfl)
  have run := (swept.snoc (@Step.ask _ 2 pod rfl)).snoc (@Step.sweep _ 0 pod rfl)
  obtain ⟨entry, -, blocked, references, -⟩ := pod_has_one_lock run
  have here := entry 2 pod 1 (.inl rfl)
  obtain ⟨-, granted⟩ := blocked 2 pod 1 rfl
  refine ⟨_, run, rfl, rfl, here, rfl, ((references 1).1 pod here).1,
    granted fun other lock' holding => ?_⟩
  obtain _ | _ | _ | other := other <;> cases holding

end Counted

end NetAttach.Locks
