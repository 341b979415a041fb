-- SUMMARY: No request waits while all workers sleep, so that a crew with a request to deliver can go on.
import NetAttach.Proofs.Crew
import NetAttach.Proofs.Depth

/-!
# Crews that go on

A worker that finds nothing to do sleeps until it is signalled. An item that starts to
wait signals one worker only, and a worker that was signalled may find that another has
been faster. Still no request waits while all workers sleep: a worker falls asleep only
when nothing waits, and whoever makes an item wait finds a sleeper to signal if there
is one. So a crew that owes a delivery always has a step to take.
-/

namespace NetAttach

/-! ## Alert crews -/

/-- The worker is registered with the queue. -/
def Phase.isListed : Phase → Bool
  | .listed => true
  | _ => false

/-- The worker has not left, and what it has to do is bounded. -/
def Phase.Fit : Phase → Prop
  | .left => False
  | .working _ _ rest => rest.Bounded
  | _ => True

namespace Controller

/-- Some worker is not asleep. -/
def Awake (c : Controller) : Prop :=
  ∃ i < c.workers.length, ∀ g ∈ c.queue.shared.getters, g.id = i → g.asleep = false

/-- The workers are there and registered as they should be, and not all asleep while a request waits. -/
structure Alert (c : Controller) : Prop where
  fit : ∀ i < c.workers.length, (c.phase i).Fit
  listed : ∀ i, i ∈ c.queue.shared.ids ↔ (c.phase i).isListed = true
  unique : c.queue.shared.ids.Nodup
  awake : c.queue.shared.queue.waiting ≠ [] → c.workers ≠ [] → c.Awake

variable {c c' : Controller} {i : Nat} {p p' : Phase} {taken delayed : List Ticket}

theorem Alert.lt_of_mem (h : c.Alert) (mem : i ∈ c.queue.shared.ids) : i < c.workers.length := by
  have listed := (h.listed i).1 mem
  refine lt_of_phase rfl fun left => ?_
  rw [left] at listed
  cases listed

/-- A worker that moves is registered afterwards exactly if it enters the phase of those that are. -/
theorem Move.ids (move : Move c i p p' taken delayed c') (hp : c.phase i = p) (alert : c.Alert)
    (open_ : c.queue.shared.queue.closed = false) :
    c'.queue.shared.ids.Nodup ∧ ∀ j, j ∈ c'.queue.shared.ids
      ↔ if j = i then p'.isListed = true else j ∈ c.queue.shared.ids := by
  have unique := alert.unique
  have here : i ∈ c.queue.shared.ids ↔ p.isListed = true := hp ▸ alert.listed i
  -- a worker that stays registered or unregistered
  have same (ids : c'.queue.shared.ids = c.queue.shared.ids) (stays : p'.isListed = p.isListed) :
      c'.queue.shared.ids.Nodup ∧ ∀ j, j ∈ c'.queue.shared.ids
        ↔ if j = i then p'.isListed = true else j ∈ c.queue.shared.ids := by
    rw [ids]
    refine ⟨unique, fun j => ?_⟩
    by_cases hj : j = i
    · rw [if_pos hj, hj, here, stays]
    · rw [if_neg hj]
  have leaves (ids : c'.queue.shared.ids = c.queue.shared.ids.erase i) (away : p'.isListed = false) :
      c'.queue.shared.ids.Nodup ∧ ∀ j, j ∈ c'.queue.shared.ids
        ↔ if j = i then p'.isListed = true else j ∈ c.queue.shared.ids := by
    rw [ids]
    refine ⟨unique.erase i, fun j => ?_⟩
    rw [unique.mem_erase_iff]
    by_cases hj : j = i <;> simp [hj, away]
  cases move with
  | register =>
    obtain ⟨signal, getters, -⟩ := c.queue.shared.getters_register i
    have ids : (c.queue.shared.register i).ids = c.queue.shared.ids ++ [i] := by
      simp [SharedQueue.ids, getters]
    have away : i ∉ c.queue.shared.ids := mt here.1 Bool.false_ne_true
    simp only [enter, withShared, ids]
    refine ⟨?_, fun j => ?_⟩
    · grind
    · by_cases hj : j = i <;> simp [hj, Phase.isListed]
  | restart => exact leaves SharedQueue.ids_drop rfl
  | vain _ _ empty =>
    refine same ?_ rfl
    simp only [enter, withShared, SharedQueue.ids, SharedQueue.getters_vain empty open_, List.map_map]
    refine List.map_congr_left fun g _ => ?_
    dsimp only [Function.comp]
    split <;> rfl
  | get found => exact leaves (SharedQueue.ids_leave (by exact found)) rfl
  | pass passes => cases passes <;> exact same rfl rfl
  | finish t => exact same SharedQueue.ids_done rfl
  | _ => exact same rfl rfl

theorem Move.fit (move : Move c i p p' taken delayed c') : p'.Fit := by
  cases move with
  | pass passes =>
    cases passes with
    | grant t lock => exact ⟨_, within_reconcile c.conflictRetries t.request⟩
    | _ => trivial
  | _ => trivial

theorem Alert.move (h : c.Alert) (move : Move c i p p' taken delayed c') (hp : c.phase i = p)
    (open_ : c.queue.shared.queue.closed = false) : c'.Alert := by
  obtain ⟨unique, ids⟩ := move.ids hp h open_
  have hi : i < c'.workers.length := by
    rw [move.workers, List.length_set]
    exact lt_of_phase hp move.ne_left
  have length : c'.workers.length = c.workers.length := by rw [move.workers, List.length_set]
  refine ⟨fun j hj => ?_, fun j => ?_, unique, fun waits _ => ⟨i, hi, fun g hg hid => ?_⟩⟩
  · rw [move.phase hp]
    split
    · exact move.fit
    · exact h.fit j (length ▸ hj)
  · rw [ids, move.phase hp, h.listed]
    split <;> rfl
  · -- the worker that moved does not sleep, unless it found that nothing waits
    have registered : p'.isListed = true := by
      have mem : i ∈ c'.queue.shared.ids := List.mem_map.2 ⟨g, hg, hid⟩
      rw [ids, if_pos rfl] at mem
      exact mem
    cases move with
    | register =>
      obtain ⟨signal, getters, -⟩ := c.queue.shared.getters_register i
      have hg : g ∈ (c.queue.shared.register i).getters := hg
      rw [getters] at hg
      obtain hg | hg := List.mem_append.1 hg
      · have mem : i ∈ c.queue.shared.ids := List.mem_map.2 ⟨g, hg, hid⟩
        rw [h.listed, hp] at mem
        cases mem
      · rw [List.mem_singleton.1 hg]
        rfl
    | vain found unchecked empty =>
      have waits : (c.queue.shared.check i).2.queue.waiting ≠ [] := waits
      simp [SharedQueue.check, WorkQueue.take?_eq_none.2 empty, open_, empty] at waits
    | pass passes => cases passes <;> cases registered
    | _ => cases registered

/-- What a worker has to do is bounded. -/
theorem Alert.bounded (h : c.Alert) {t : Ticket} {lock : Nat} {rest : Control (Except Fault Unit)}
    (hp : c.phase i = .working t lock rest) : rest.Bounded := by
  have fit := h.fit i (lt_of_phase hp (Phase.noConfusion ·))
  rw [hp] at fit
  exact fit

/-- A worker goes on with an answer. -/
theorem Alert.act (h : c.Alert) {t : Ticket} {lock : Nat} {action : Action}
    {k : action.Answer → Control (Except Fault Unit)}
    (hp : c.phase i = .working t lock (.act action k)) (answer : action.Answer) :
    (c.enter i (.working t lock (k answer))).Alert := by
  have there : c.phase i ≠ .left := hp ▸ (Phase.noConfusion ·)
  have phase := phase_enter (d := c) rfl there (.working t lock (k answer))
  have length : (c.enter i (.working t lock (k answer))).workers.length = c.workers.length :=
    List.length_set
  refine ⟨fun j hj => ?_, fun j => ?_, h.unique, fun waits some => ?_⟩
  · rw [phase]
    split
    · exact ((h.bounded hp).next answer).1
    · exact h.fit j (length ▸ hj)
  · rw [phase]
    refine (h.listed j).trans ?_
    split
    · next hj =>
      rw [hj, hp]
      rfl
    · rfl
  · obtain ⟨j, hj, awake⟩ := h.awake waits fun none => some (by
      show c.workers.set i _ = []
      rw [none]
      rfl)
    exact ⟨j, length.symm ▸ hj, awake⟩

/-- A request is added. -/
theorem Alert.add (h : c.Alert) {d : Controller} {t : Ticket} (workers : d.workers = c.workers)
    (queue : d.queue.shared = c.queue.shared.add t) : d.Alert := by
  have phase (j : Nat) : d.phase j = c.phase j := by rw [Controller.phase, workers, Controller.phase]
  have ids : d.queue.shared.ids = c.queue.shared.ids := by rw [queue, SharedQueue.ids_add]
  refine ⟨fun j hj => ?_, fun j => ?_, ids ▸ h.unique, fun waits some => ?_⟩
  · rw [phase]
    exact h.fit j (workers ▸ hj)
  · rw [ids, phase]
    exact h.listed j
  · rw [workers] at some
    unfold Awake
    rw [workers, queue]
    rw [queue, SharedQueue.queue_add] at waits
    unfold SharedQueue.add
    dsimp only
    split
    · -- whoever makes an item wait gives a signal
      exact SharedQueue.awake_of_notifyOne
        (q := { c.queue.shared with queue := c.queue.shared.queue.add t }) h.unique _
        (fun i mem => h.lt_of_mem mem) (List.length_pos_iff.2 some)
    · next same =>
      rw [WorkQueue.waiting_add same] at waits
      exact h.awake waits some

theorem alert_ofWorkers (retries workers : Nat) : (ofWorkers retries workers).Alert := by
  refine ⟨fun i hi => ?_, fun i => ?_, .nil, fun waits => absurd rfl waits⟩
  · have hi : i < workers := by simpa [ofWorkers] using hi
    rw [phase_ofWorkers, if_pos hi]
    trivial
  · rw [phase_ofWorkers]
    split <;> exact iff_of_false List.not_mem_nil Bool.false_ne_true

/-! ## Going on -/

/-- A worker takes a step exactly if it can move. -/
theorem canMove_iff {clock : Nat} : c.canMove i = true ↔ c.turn clock i ≠ .rests := by
  unfold canMove turn
  cases c.phase i with
  | listed =>
    dsimp only [look]
    cases c.queue.shared.getter? i with
    | none => simp
    | some g =>
      by_cases asleep : g.asleep = true
      · simp [asleep]
      · refine iff_of_true (by simpa using asleep) ?_
        simp only [asleep, Bool.false_eq_true, if_false]
        split
        · exact nofun
        · split <;> exact nofun
  | lined t lock =>
    dsimp only
    split <;> simp [*]
  | working t lock rest => cases rest <;> exact iff_of_true rfl nofun
  | left => simp
  | _ => exact iff_of_true rfl nofun

/-- If a worker waits for a lock, then who is first in line at it can move. -/
theorem LocksSound.canMove_of_lined (h : c.LocksSound) {t : Ticket} {lock : Nat}
    (hp : c.phase i = .lined t lock) : ∃ j, c.canMove j = true := by
  have mem : i ∈ c.locks.line lock :=
    h.mem_line.2 ⟨t.request.pod, by rw [hp]; exact .inl rfl⟩
  cases line : c.locks.line lock with
  | nil =>
    rw [line] at mem
    cases mem
  | cons j rest =>
    have first : c.locks.holds lock j = true := by simp [Locks.holds, line]
    obtain ⟨pod, inLine⟩ := h.mem_line.1 (by rw [line]; exact List.mem_cons_self : j ∈ c.locks.line lock)
    refine ⟨j, ?_⟩
    unfold canMove
    cases hj : c.phase j with
    | lined u lock' =>
      rw [hj] at inLine
      obtain ⟨-, rfl⟩ := LockStage.inLine_waiting.1 inLine
      exact first
    | listed =>
      rw [hj] at inLine
      exact absurd inLine LockStage.not_inLine_away
    | left =>
      rw [hj] at inLine
      exact absurd inLine LockStage.not_inLine_away
    | _ => rfl

/-- If a worker is awake, some worker can move. -/
theorem Alert.canMove (h : c.Alert) (locks : c.LocksSound) (awake : c.Awake) :
    ∃ i, c.canMove i = true := by
  obtain ⟨i, hi, awake⟩ := awake
  cases hp : c.phase i with
  | listed =>
    obtain ⟨g, hg, hid⟩ := List.mem_map.1 ((h.listed i).2 (congrArg Phase.isListed hp))
    obtain ⟨g', found⟩ : ∃ g', c.queue.shared.getter? i = some g' :=
      Option.isSome_iff_exists.1 (List.find?_isSome.2 ⟨g, hg, by simpa using hid⟩)
    have named : g'.id = i := by simpa using List.find?_some found
    have asleep := awake g' (List.mem_of_find?_eq_some found) named
    exact ⟨i, by simp [Controller.canMove, hp, found, asleep]⟩
  | lined t lock => exact locks.canMove_of_lined hp
  | left =>
    have fit := h.fit i hi
    rw [hp] at fit
    exact fit.elim
  | _ => exact ⟨i, by simp [Controller.canMove, hp]⟩

end Controller

namespace Crew

open Controller

variable {s s' : Crew} {ms : List Mark} {m : Mark} {t : Ticket} {retries workers : Nat}

theorem Sound.alert_step (h : s.Sound retries workers ms) (alert : s.controller.Alert)
    (step : s.Step m s') : s'.controller.Alert := by
  cases h.does step with
  | move before move => exact alert.move move before h.open_
  | act before answer => exact alert.act before answer
  | enqueue request => exact alert.add rfl rfl
  | due later => exact alert.add rfl rfl

theorem other_ne_made (t : Ticket) : Mark.other ≠ .made t := nofun

/-- No step of a worker makes a request. -/
theorem mark_ne_made (p p' : Phase) (t : Ticket) : p.mark p' ≠ .made t := by
  unfold Phase.mark
  split <;> exact nofun

theorem exists_step {i : Nat} (moves : s.controller.canMove i = true) :
    ∃ m s', s.Step m s' ∧ ∀ u, m ≠ .made u := by
  cases turn : s.controller.turn 0 i with
  | rests => exact absurd turn (canMove_iff.1 moves)
  | acts action next =>
    have answer : Nonempty action.Answer := by
      cases action <;> first | exact ⟨()⟩ | exact ⟨.error (.delegate .unreachable)⟩
    obtain ⟨answer⟩ := answer
    exact ⟨_, _, .act turn answer, other_ne_made⟩
  | moves c effects => exact ⟨_, _, .move turn, mark_ne_made _ _⟩

/-- A crew that owes the delivery of a request can go on. -/
theorem Sound.exists_step (h : s.Sound retries workers ms) (alert : s.controller.Alert)
    (some : 0 < workers) (owed : Owed t ms) (idle : load (delivering t) s.controller.workers = 0) :
    ∃ m s', s.Step m s' ∧ ∀ u, m ≠ .made u := by
  have one := (h.ledger t).owed
  rw [if_pos owed, pending] at one
  by_cases delayed : t ∈ s.later
  · obtain ⟨front, back, later⟩ := List.append_of_mem delayed
    exact ⟨_, _, .due later, other_ne_made⟩
  have dirty : t ∈ s.controller.queue.shared.queue.dirty := by
    have none := Nat.eq_zero_of_not_pos (mt mem_of_load delayed)
    exact mem_of_load (by omega)
  by_cases held : t ∈ s.controller.queue.shared.queue.processing
  · -- its worker has seen to the result and is about to mark it as done
    obtain ⟨p, hp, holds⟩ := exists_of_load (h.held t ▸ load_of_mem held)
    have settled : delivering t p = 0 := Nat.eq_zero_of_le_zero (idle ▸ le_load hp)
    obtain ⟨i, hi⟩ := List.mem_iff_getElem?.1 hp
    have phase : s.controller.phase i = p := by rw [phase, hi]; rfl
    refine Crew.exists_step (i := i) ?_
    cases p with
    | finishing u => simp [canMove, phase]
    | _ => exact absurd settled (Nat.ne_of_gt holds)
  · have waits := (h.orderly.mem_waiting t).2 ⟨dirty, held⟩
    have there : s.controller.workers ≠ [] := List.length_pos_iff.1 (h.workers ▸ some)
    obtain ⟨i, moves⟩ := alert.canMove h.locks (alert.awake (List.ne_nil_of_mem waits) there)
    exact Crew.exists_step moves

end Crew

end NetAttach
