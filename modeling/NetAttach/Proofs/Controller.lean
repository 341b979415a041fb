-- SUMMARY: Steps of a controller in arbitrary surroundings, and the one worker that is at work on a pod.
import NetAttach.Proofs.Locks
import NetAttach.Proofs.Program
import NetAttach.Controller.Worker

/-!
# Controllers at work

The steps of the workers follow each other in any order. Between them requests are
made, added again and the queue is shut down, and every action on the surroundings may
meet with any answer, since others write the pods at the same time. What a step does to
the phases and to the locks is said once, in `Controller.turn_moves` and
`Controller.turn_acts`.
-/

namespace NetAttach

/-- An action and the answer to it. -/
abbrev Exchange : Type := Program.Exchange Action.Answer

/-- An action on the surroundings that a worker took for a request, with the answer. -/
structure Deed where
  worker : Nat
  ticket : Ticket
  exchange : Exchange

/-- The request that a worker has taken and not marked as done. -/
def Phase.ticket? : Phase → Option Ticket
  | .asking t | .lined t _ | .working t _ _ | .sweeping t _ | .settling t _ | .finishing t => some t
  | .seeking | .listed | .left => none

/-- The request that an effect delays. -/
def Effect.ticket? : Effect → Option Ticket
  | .addLater t _ => some t
  | .notify _ => none

namespace Controller

/-! ## Phases -/

/-- Where a worker stands with the locks. -/
def lockStage : Phase → LockStage
  | .lined t lock => .waiting t.request.pod lock
  | .working t lock _ => .holding t.request.pod lock
  | .sweeping t _ => .leaving t.request.pod
  | _ => .away

/-- A worker that is there enters a phase, and the others stay where they are. -/
theorem phase_enter {c d : Controller} {i : Nat} (same : d.workers = c.workers)
    (h : c.phase i ≠ .left) (p : Phase) (j : Nat) :
    (d.enter i p).phase j = if j = i then p else c.phase j := by
  have hi : i < c.workers.length := by
    refine Nat.lt_of_not_le fun hle => h ?_
    simp [phase, List.getElem?_eq_none hle]
  unfold phase enter
  rw [same, List.getElem?_set]
  by_cases hj : i = j
  · subst hj; simp [hi]
  · simp [hj, Ne.symm hj]

/-- At the start each worker looks for a request. -/
theorem phase_ofWorkers (retries workers i : Nat) :
    (ofWorkers retries workers).phase i = if i < workers then .seeking else .left := by
  unfold phase ofWorkers
  rw [List.getElem?_replicate]
  split <;> rfl

theorem ticket?_ofWorkers (retries workers i : Nat) :
    ((ofWorkers retries workers).phase i).ticket? = none := by
  rw [phase_ofWorkers]
  split <;> rfl

/-- What one worker's step does to its phase and to the locks. -/
inductive Moves (c : Controller) (i : Nat) : Phase → Phase → Locks → Prop where
  /-- The locks are left alone. -/
  | apart {p p' : Phase} {locks : Locks} (before : lockStage p = .away)
    (after : lockStage p' = .away) (same : locks = c.locks) : Moves c i p p' locks
  | ask (t : Ticket) :
    Moves c i (.asking t) (.lined t (c.locks.request t.request.pod i).1)
      (c.locks.request t.request.pod i).2
  | grant {t : Ticket} {lock : Nat} (first : c.locks.holds lock i = true) :
    Moves c i (.lined t lock) (.working t lock (reconcile c.conflictRetries t.request).run) c.locks
  | release (t : Ticket) (lock : Nat) (result : Except Fault Unit) :
    Moves c i (.working t lock (.done result)) (.sweeping t result) (c.locks.release lock i)
  | sweep (t : Ticket) (result : Except Fault Unit) :
    Moves c i (.sweeping t result) (.settling t result) (c.locks.sweep t.request.pod)

theorem locks_settle (c : Controller) (clock : Nat) (t : Ticket) (result : Except Fault Unit) :
    (c.settle clock t result).1.locks = c.locks
      ∧ (c.settle clock t result).1.workers = c.workers
      ∧ (c.settle clock t result).1.conflictRetries = c.conflictRetries := by
  cases result with
  | ok => exact ⟨rfl, rfl, rfl⟩
  | error e => dsimp only [settle]; split <;> exact ⟨rfl, rfl, rfl⟩

/-- What looking at the queue does to the phases and to the locks. -/
theorem look_moves {c c' : Controller} {i : Nat} {effects : List Effect}
    (hp : c.phase i = .listed) (h : c.look i = .moves c' effects) :
    ∃ p, lockStage p = .away ∧ (∀ j, c'.phase j = if j = i then p else c.phase j)
      ∧ c'.locks = c.locks ∧ c'.conflictRetries = c.conflictRetries := by
  have hne : c.phase i ≠ .left := by simp [hp]
  unfold look at h
  split at h
  · cases h
  · split at h
    · cases h
    · split at h
      · cases h
        exact ⟨.seeking, rfl, phase_enter rfl hne _, rfl, rfl⟩
      · dsimp only at h
        split at h
        · cases h
          refine ⟨.listed, rfl, fun j => ?_, rfl, rfl⟩
          split
          · next hj => exact hj ▸ hp
          · rfl
        · next t _ => cases h; exact ⟨.asking t, rfl, phase_enter rfl hne _, rfl, rfl⟩
        · cases h; exact ⟨.left, rfl, phase_enter rfl hne _, rfl, rfl⟩

/-- What a step without an action does to the phases and to the locks. -/
theorem turn_moves {c c' : Controller} {clock i : Nat} {effects : List Effect}
    (h : c.turn clock i = .moves c' effects) :
    ∃ p, Moves c i (c.phase i) p c'.locks ∧ (∀ j, c'.phase j = if j = i then p else c.phase j)
      ∧ c'.conflictRetries = c.conflictRetries := by
  generalize hp : c.phase i = before at h
  have hne : before ≠ .left → c.phase i ≠ .left := hp ▸ id
  unfold turn at h
  rw [hp] at h
  cases before with
  | seeking =>
    cases h
    exact ⟨.listed, .apart rfl rfl rfl, phase_enter rfl (hne nofun) _, rfl⟩
  | listed =>
    obtain ⟨p, after, hphase, hlocks, hretries⟩ := look_moves hp h
    exact ⟨p, .apart rfl after hlocks, hphase, hretries⟩
  | asking t =>
    cases h
    exact ⟨_, .ask t, phase_enter rfl (hne nofun) _, rfl⟩
  | lined t lock =>
    dsimp only at h
    split at h
    · next first =>
      cases h
      exact ⟨_, .grant first, phase_enter rfl (hne nofun) _, rfl⟩
    · cases h
  | working t lock rest =>
    cases rest with
    | act action next => cases h
    | done result =>
      cases h
      exact ⟨_, .release t lock result, phase_enter rfl (hne nofun) _, rfl⟩
  | sweeping t result =>
    cases h
    exact ⟨_, .sweep t result, phase_enter rfl (hne nofun) _, rfl⟩
  | settling t result =>
    obtain ⟨hlocks, hworkers, hretries⟩ := locks_settle c clock t result
    cases h
    exact ⟨.finishing t, .apart rfl rfl hlocks, phase_enter hworkers (hne nofun) _, hretries⟩
  | finishing t =>
    cases h
    exact ⟨.seeking, .apart rfl rfl rfl, phase_enter rfl (hne nofun) _, rfl⟩
  | left => cases h

theorem turn_working {c : Controller} (clock : Nat) {i lock : Nat} {t : Ticket} {action : Action}
    {k : action.Answer → Control (Except Fault Unit)}
    (h : c.phase i = .working t lock (.act action k)) :
    c.turn clock i = .acts action fun r => c.enter i (.working t lock (k r)) := by
  unfold turn
  rw [h]

/-- A worker acts only while it works on a request, and goes on with the answer. -/
theorem turn_acts {c : Controller} {clock i : Nat} {action : Action}
    {next : action.Answer → Controller} (h : c.turn clock i = .acts action next) :
    ∃ t lock k, c.phase i = .working t lock (.act action k)
      ∧ next = fun r => c.enter i (.working t lock (k r)) := by
  generalize hp : c.phase i = p at h
  unfold turn at h
  rw [hp] at h
  cases p with
  | working t lock rest =>
    cases rest with
    | act action' k => cases h; exact ⟨t, lock, k, rfl, rfl⟩
    | done result => cases h
  | listed =>
    dsimp only [look] at h
    repeat' split at h
    all_goals cases h
  | lined t lock =>
    dsimp only at h
    split at h <;> cases h
  | _ => cases h

/-! ## Steps -/

/-- One step of anyone: of a worker, which may act and be answered, or from outside. -/
inductive Step : Controller → Option Deed → Controller → Prop where
  | move {c c' : Controller} {clock i : Nat} {effects : List Effect}
    (turn : c.turn clock i = .moves c' effects) : Step c none c'
  | act {c : Controller} {clock i : Nat} {action : Action} {next : action.Answer → Controller}
    {t : Ticket} {lock : Nat} {rest : Control (Except Fault Unit)}
    (turn : c.turn clock i = .acts action next) (phase : c.phase i = .working t lock rest)
    (answer : action.Answer) : Step c (some ⟨i, t, action, answer⟩) (next answer)
  | enqueue (c : Controller) (request : Request) : Step c none (c.enqueue request)
  /-- A request is added that was made before, be it by a delay that is over or by anyone else. -/
  | add (c : Controller) (t : Ticket) : Step c none (c.add t)
  | shutDown (c : Controller) : Step c none c.shutDown

theorem Step.conflictRetries {c c' : Controller} {d : Option Deed} (step : Step c d c') :
    c'.conflictRetries = c.conflictRetries := by
  cases step with
  | move turn =>
    obtain ⟨-, -, -, hr⟩ := turn_moves turn
    exact hr
  | act turn =>
    obtain ⟨t, lock, k, -, rfl⟩ := turn_acts turn
    rfl
  | enqueue request => rfl
  | add t => rfl
  | shutDown => rfl

/-- The locks are sound for the stages of the workers. -/
def LocksSound (c : Controller) : Prop := c.locks.Sound fun i => lockStage (c.phase i)

theorem locksSound_ofWorkers (retries workers : Nat) : (ofWorkers retries workers).LocksSound := by
  have : (fun i => lockStage ((ofWorkers retries workers).phase i)) = fun _ => .away := by
    funext i
    rw [phase_ofWorkers]
    split <;> rfl
  unfold LocksSound
  rw [this]
  exact Locks.sound_empty

theorem Moves.lockStep {c : Controller} {i : Nat} {p p' : Phase} {locks : Locks}
    (h : Moves c i p p' locks) :
    (lockStage p = .away ∧ lockStage p' = .away ∧ locks = c.locks)
      ∨ Locks.Step c.locks i (lockStage p) locks (lockStage p') := by
  cases h with
  | apart before after same => exact .inl ⟨before, after, same⟩
  | ask t => exact .inr (.ask _)
  | grant first => exact .inr (.grant first)
  | release t lock result => exact .inr (.release _ _)
  | sweep t result => exact .inr (.sweep _)

theorem LocksSound.step {c c' : Controller} {d : Option Deed} (h : c.LocksSound)
    (step : Step c d c') : c'.LocksSound := by
  cases step with
  | @move c' clock i effects turn =>
    obtain ⟨p, moves, hphase, -⟩ := turn_moves turn
    obtain ⟨before, after, same⟩ | hstep := moves.lockStep
    · have hstage : (fun j => lockStage (c'.phase j)) = fun j => lockStage (c.phase j) := by
        funext j
        rw [hphase]
        split
        · next hj => rw [hj, after, before]
        · rfl
      unfold LocksSound
      rw [same, hstage]
      exact h
    · refine Locks.Sound.step h hstep fun j => ?_
      rw [hphase]
      split <;> rfl
  | @act clock i action next t lock rest turn phase answer =>
    obtain ⟨t', lock', k, hp, rfl⟩ := turn_acts turn
    have hne : c.phase i ≠ .left := by simp [hp]
    have hstage : (fun j => lockStage ((c.enter i (.working t' lock' (k answer))).phase j))
        = fun j => lockStage (c.phase j) := by
      funext j
      rw [phase_enter rfl hne]
      split
      · next hj => rw [hj, hp]; rfl
      · rfl
    unfold LocksSound
    rw [hstage]
    exact h
  | enqueue request => exact h
  | add t => exact h
  | shutDown => exact h

/-- At most one worker works on a pod. -/
theorem LocksSound.worker_unique {c : Controller} (h : c.LocksSound) {i j l m : Nat}
    {t u : Ticket} {p q : Control (Except Fault Unit)} (hi : c.phase i = .working t l p)
    (hj : c.phase j = .working u m q) (same : t.request.pod = u.request.pod) : i = j :=
  Locks.Sound.holder_unique h (by rw [hi]; rfl) (by rw [hj, same]; rfl)

/-- Nobody works on a pod while another worker is first in line at its lock. -/
theorem LocksSound.idle_of_first {c : Controller} (h : c.LocksSound) {i j l m : Nat}
    {t u : Ticket} {q : Control (Except Fault Unit)} (hi : c.phase i = .lined t l)
    (first : c.locks.holds l i = true) (hj : c.phase j = .working u m q) :
    u.request.pod ≠ t.request.pod := by
  intro same
  have waiting : lockStage (c.phase i) = .waiting t.request.pod l := by rw [hi]; rfl
  have holding : lockStage (c.phase j) = .holding t.request.pod m := by rw [hj, ← same]; rfl
  exact Locks.Sound.not_held_of_first h waiting first holding

end Controller

end NetAttach
