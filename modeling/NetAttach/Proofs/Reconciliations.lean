-- SUMMARY: What is done for a pod is one complete delivery after the other, whatever other workers do in between.
import NetAttach.Proofs.Reconcile

/-!
# Deliveries of requests

A delivery of a request begins when a worker is granted the lock of its pod and ends
when the worker lets go of it. Whoever is at work on a pod holds its lock, so that
there is at most one delivery at a time, and the next one begins after its end.
-/

namespace NetAttach

open Program

/-- One delivery of a request to a worker, with all its actions and the answers to them. -/
structure Reconciliation where
  worker : Nat
  ticket : Ticket
  exchanges : List Exchange

namespace Reconciliation

def deeds (d : Reconciliation) : List Deed := d.exchanges.map (Deed.mk d.worker d.ticket)

/-- The request was worked off from the beginning to the end, well or not. -/
def Complete (retries : Nat) (d : Reconciliation) : Prop :=
  ∃ result, Path (reconcile retries d.ticket.request).run d.exchanges (.done result)

end Reconciliation

/-- A deed is part of a delivery for a pod. -/
def Deed.isFor (pod : ObjectKey) (d : Deed) : Bool := d.ticket.request.pod == pod

@[simp] theorem Deed.isFor_iff {pod : ObjectKey} {d : Deed} :
    d.isFor pod ↔ d.ticket.request.pod = pod := by
  simp [isFor]

namespace Controller

variable {c c' : Controller} {pod : ObjectKey} {present : List Deed} {i : Nat}

/-- A worker works off a request for a pod. -/
def WorksOn (c : Controller) (i : Nat) (pod : ObjectKey) : Prop :=
  ∃ t lock rest, c.phase i = .working t lock rest ∧ t.request.pod = pod

/-- What was done for a pod since the last delivery for it was complete. -/
inductive Underway (c : Controller) (pod : ObjectKey) : List Deed → Prop where
  | idle (nobody : ∀ i, ¬c.WorksOn i pod) : Underway c pod []
  | busy {i lock : Nat} {t : Ticket} {rest : Control (Except Fault Unit)} {es : List Exchange}
    (phase : c.phase i = .working t lock rest) (own : t.request.pod = pod)
    (path : Path (reconcile c.conflictRetries t.request).run es rest) :
    Underway c pod (es.map (Deed.mk i t))

/-- Steps that leave the work on a pod alone leave it underway as it is. -/
theorem Underway.keep (h : c.Underway pod present)
    (same : ∀ {j t lock rest}, t.request.pod = pod →
      (c'.phase j = .working t lock rest ↔ c.phase j = .working t lock rest))
    (retries : c'.conflictRetries = c.conflictRetries) : c'.Underway pod present := by
  cases h with
  | idle nobody =>
    refine .idle fun i => ?_
    rintro ⟨t, lock, rest, hp, own⟩
    exact nobody i ⟨t, lock, rest, (same own).1 hp, own⟩
  | busy phase own path => exact .busy ((same own).2 phase) own (retries ▸ path)

/-- While a worker works on a pod, what was done for the pod was done by it. -/
theorem Underway.of_working (h : c.Underway pod present) (sound : c.LocksSound) {lock : Nat}
    {t : Ticket} {rest : Control (Except Fault Unit)} (hi : c.phase i = .working t lock rest)
    (own : t.request.pod = pod) :
    ∃ es, present = es.map (Deed.mk i t)
      ∧ Path (reconcile c.conflictRetries t.request).run es rest := by
  cases h with
  | idle nobody => exact absurd ⟨t, lock, rest, hi, own⟩ (nobody i)
  | @busy j _ u _ es phase own' path =>
    obtain rfl := sound.worker_unique hi phase (own.trans own'.symm)
    rw [hi] at phase
    cases phase
    exact ⟨es, rfl, path⟩

/-- A worker that is granted the lock of a pod begins a delivery. -/
theorem Underway.begin (h : c.Underway pod present) (sound : c.LocksSound) {lock : Nat}
    {t : Ticket} (hi : c.phase i = .lined t lock) (first : c.locks.holds lock i = true)
    (hi' : c'.phase i = .working t lock (reconcile c'.conflictRetries t.request).run)
    (own : t.request.pod = pod) : present = [] ∧ c'.Underway pod [] := by
  cases h with
  | idle nobody => exact ⟨rfl, .busy hi' own .nil⟩
  | busy phase own' path =>
    exact absurd (own'.trans own.symm) (sound.idle_of_first hi first phase)

/-- A worker that lets go of the lock of a pod has completed its delivery. -/
theorem Underway.complete (h : c.Underway pod present) (sound : c.LocksSound) {lock : Nat}
    {t : Ticket} {result : Except Fault Unit} (hi : c.phase i = .working t lock (.done result))
    (hi' : c'.phase i = .sweeping t result) (others : ∀ j, j ≠ i → c'.phase j = c.phase j)
    (own : t.request.pod = pod) :
    ∃ d : Reconciliation, present = d.deeds ∧ d.ticket = t ∧ d.Complete c.conflictRetries
      ∧ c'.Underway pod [] := by
  obtain ⟨es, rfl, path⟩ := h.of_working sound hi own
  refine ⟨⟨i, t, es⟩, rfl, rfl, ⟨result, path⟩, .idle fun j => ?_⟩
  rintro ⟨u, m, rest, hj, own'⟩
  by_cases hji : j = i
  · subst hji
    rw [hi'] at hj
    cases hj
  · rw [others j hji] at hj
    exact hji (sound.worker_unique hj hi (own'.trans own.symm))

/-- What was done for a pod is complete reconciliations, and at the end what is underway. -/
def InSequence (c : Controller) (pod : ObjectKey) (done : List Deed) : Prop :=
  ∃ (past : List Reconciliation) (present : List Deed),
    done = past.flatMap Reconciliation.deeds ++ present
      ∧ (∀ x ∈ past, x.ticket.request.pod = pod ∧ x.Complete c.conflictRetries)
      ∧ c.Underway pod present

theorem Underway.inSequence (h : c.Underway pod present) : c.InSequence pod present :=
  ⟨[], present, rfl, nofun, h⟩

/-- An action of a worker is added to what is underway for the pod of its request. -/
theorem Underway.act (h : c.Underway pod present) (sound : c.LocksSound) {lock : Nat} {t : Ticket}
    {action : Action} {next : action.Answer → Control (Except Fault Unit)}
    (hi : c.phase i = .working t lock (.act action next)) (answer : action.Answer) :
    (c.enter i (.working t lock (next answer))).InSequence pod
      (present ++ [Deed.mk i t ⟨action, answer⟩].filter (Deed.isFor pod)) := by
  have hne : c.phase i ≠ .left := by rw [hi]; nofun
  have hphase := phase_enter (d := c) rfl hne (.working t lock (next answer))
  by_cases own : t.request.pod = pod
  · obtain ⟨es, rfl, path⟩ := h.of_working sound hi own
    have h' : Underway _ pod ((es ++ [(⟨action, answer⟩ : Exchange)]).map (Deed.mk i t)) :=
      .busy ((hphase i).trans (if_pos rfl)) own (path.snoc answer)
    simpa [Deed.isFor, own] using h'.inSequence
  · have none : [Deed.mk i t ⟨action, answer⟩].filter (Deed.isFor pod) = [] := by
      simp [Deed.isFor, own]
    rw [none, List.append_nil]
    have kept : (c.enter i (.working t lock (next answer))).Underway pod present := by
      refine h.keep (fun {j u l q} own' => ?_) rfl
      rw [hphase]
      split
      · next hj =>
        subst hj
        rw [hi]
        constructor <;> intro he <;> cases he <;> exact absurd own' own
      · rfl
    exact kept.inSequence

/-- A step adds to what is underway, or completes it. -/
theorem Underway.step (h : c.Underway pod present) (sound : c.LocksSound) {d : Option Deed}
    (step : Step c d c') : c'.InSequence pod (present ++ d.toList.filter (Deed.isFor pod)) := by
  have hr := step.conflictRetries
  have keep : d.toList.filter (Deed.isFor pod) = [] → (∀ {j t lock rest}, t.request.pod = pod →
      (c'.phase j = .working t lock rest ↔ c.phase j = .working t lock rest)) →
      c'.InSequence pod (present ++ d.toList.filter (Deed.isFor pod)) := by
    intro hd same
    rw [hd, List.append_nil]
    exact (h.keep same hr).inSequence
  cases step with
  | @move c' clock i effects turn =>
    obtain ⟨p, moves, hphase, -⟩ := turn_moves turn
    generalize hp : c.phase i = before, c'.locks = locks at moves
    have hi' : c'.phase i = p := by rw [hphase, if_pos rfl]
    have others : ∀ j, j ≠ i → c'.phase j = c.phase j := fun j hj => by rw [hphase, if_neg hj]
    -- a step between phases without work on the pod leaves that work alone
    have apart : (∀ {t lock rest}, t.request.pod = pod →
        before ≠ .working t lock rest ∧ p ≠ .working t lock rest) →
        c'.InSequence pod (present ++ []) := by
      intro hnot
      refine keep rfl fun {j t lock rest} own => ?_
      by_cases hj : j = i
      · subst hj
        rw [hi', hp]
        exact iff_of_false (hnot own).2 (hnot own).1
      · rw [others j hj]
    cases moves with
    | apart hbefore hafter same =>
      refine apart fun _ => ⟨?_, ?_⟩
      · rintro rfl; cases hbefore
      · rintro rfl; cases hafter
    | ask t => exact apart fun _ => ⟨nofun, nofun⟩
    | sweep t result => exact apart fun _ => ⟨nofun, nofun⟩
    | @grant t lock first =>
      by_cases own : t.request.pod = pod
      · rw [← hr] at hi'
        obtain ⟨rfl, h'⟩ := h.begin sound hp first hi' own
        exact h'.inSequence
      · refine apart fun own' => ⟨nofun, ?_⟩
        intro he
        cases he
        exact own own'
    | release t lock result =>
      by_cases own : t.request.pod = pod
      · obtain ⟨x, rfl, rfl, complete, h'⟩ := h.complete sound hp hi' others own
        refine ⟨[x], [], by simp, fun y hy => ?_, h'⟩
        obtain rfl := List.mem_singleton.1 hy
        exact ⟨own, hr ▸ complete⟩
      · refine apart fun own' => ⟨?_, nofun⟩
        intro he
        cases he
        exact own own'
  | @act clock i action next t lock rest turn phase answer =>
    obtain ⟨t', lock', k, hp, rfl⟩ := turn_acts turn
    rw [phase] at hp
    cases hp
    exact h.act sound phase answer
  | enqueue request => exact keep rfl fun _ => Iff.rfl
  | add t => exact keep rfl fun _ => Iff.rfl
  | shutDown => exact keep rfl fun _ => Iff.rfl

theorem InSequence.step {done : List Deed} (h : c.InSequence pod done) (sound : c.LocksSound)
    {d : Option Deed} (step : Step c d c') :
    c'.InSequence pod (done ++ d.toList.filter (Deed.isFor pod)) := by
  obtain ⟨past, present, rfl, hpast, h⟩ := h
  obtain ⟨more, present', hmore, hcomplete, h'⟩ := h.step sound step
  refine ⟨past ++ more, present', ?_, fun x hx => ?_, h'⟩
  · rw [List.append_assoc, hmore, List.flatMap_append, List.append_assoc]
  · obtain hx | hx := List.mem_append.1 hx
    · rw [step.conflictRetries]
      exact hpast x hx
    · exact hcomplete x hx

theorem underway_ofWorkers (retries workers : Nat) :
    (ofWorkers retries workers).Underway pod [] := by
  refine .idle fun i => ?_
  rintro ⟨t, lock, rest, hp, -⟩
  rw [phase_ofWorkers] at hp
  split at hp <;> cases hp

/-- All deeds of a run, in their order. -/
def deeds (steps : List (Option Deed)) : List Deed := steps.filterMap id

theorem deeds_append (steps : List (Option Deed)) (d : Option Deed) :
    deeds (steps ++ [d]) = deeds steps ++ d.toList := by
  cases d <;> simp [deeds]

/-- What a run has done for a pod, and where it leaves the locks. -/
theorem inSequence_of_run {retries workers : Nat} {steps : List (Option Deed)}
    (run : Run Step (ofWorkers retries workers) steps c) :
    c.LocksSound ∧ c.InSequence pod ((deeds steps).filter (Deed.isFor pod)) := by
  refine Run.invariant_with (I := fun steps c => c.LocksSound
    ∧ c.InSequence pod ((deeds steps).filter (Deed.isFor pod))) ?_ ?_ run
  · rintro steps c d c' ⟨sound, h⟩ step
    refine ⟨sound.step step, ?_⟩
    rw [deeds_append, List.filter_append]
    exact h.step sound step
  · exact ⟨locksSound_ofWorkers _ _, (underway_ofWorkers _ _).inSequence⟩

/-- All that was done for the pod of a request that a worker is working on: complete reconciliations, and
then what this worker has done along the reconciliation of its request. -/
theorem path_of_working {retries workers : Nat} {steps : List (Option Deed)}
    (run : Run Step (ofWorkers retries workers) steps c) {t : Ticket} {lock : Nat}
    {action : Action} {next : action.Answer → Control (Except Fault Unit)}
    (hi : c.phase i = .working t lock (.act action next)) :
    ∃ (past : List Reconciliation) (es : List Exchange),
      (∀ x ∈ past, x.Complete c.conflictRetries)
        ∧ (deeds steps).filter (Deed.isFor t.request.pod)
          = past.flatMap Reconciliation.deeds ++ es.map (Deed.mk i t)
        ∧ (∀ e ∈ es, Deed.mk i t e ∈ deeds steps)
        ∧ Program.Path (reconcile c.conflictRetries t.request).run es (.act action next) := by
  obtain ⟨sound, past, present, htrace, complete, h⟩ : c.LocksSound ∧ c.InSequence t.request.pod _ :=
    inSequence_of_run run
  obtain ⟨es, rfl, path⟩ := h.of_working sound hi rfl
  refine ⟨past, es, fun x hx => (complete x hx).2, htrace, fun e he => ?_, path⟩
  have hmem : Deed.mk i t e ∈ (deeds steps).filter (Deed.isFor t.request.pod) := by
    rw [htrace]
    exact List.mem_append_right _ (List.mem_map_of_mem he)
  exact (List.mem_filter.1 hmem).1

/-- What a worker is about to do is in order after what it did for the request before. -/
theorem proper_of_working {retries workers : Nat} {steps : List (Option Deed)}
    (run : Run Step (ofWorkers retries workers) steps c) {t : Ticket} {lock : Nat}
    {action : Action} {next : action.Answer → Control (Except Fault Unit)}
    (hi : c.phase i = .working t lock (.act action next)) :
    ∃ es, (∀ e ∈ es, Deed.mk i t e ∈ deeds steps) ∧ t.request.Proper es action := by
  obtain ⟨-, es, -, -, own, path⟩ := path_of_working run hi
  have keeps := (Request.reconcile_keeps c.conflictRetries).path path
  exact ⟨es, own, by simpa using keeps.1⟩

theorem Step.working {d : Deed} (step : Step c (some d) c') :
    ∃ lock next, c.phase d.worker = .working d.ticket lock (.act d.exchange.1 next) := by
  cases step with
  | act turn phase answer =>
    obtain ⟨_, _, k, hp, -⟩ := turn_acts turn
    rw [phase] at hp
    cases hp
    exact ⟨_, k, phase⟩

/-- Every deed of a run is in order after deeds of the run. -/
theorem proper_of_run {retries workers : Nat} {steps : List (Option Deed)}
    (run : Run Step (ofWorkers retries workers) steps c) {d : Deed} (hd : d ∈ deeds steps) :
    ∃ es, (∀ e ∈ es, Deed.mk d.worker d.ticket e ∈ deeds steps)
      ∧ d.ticket.request.Proper es d.exchange.1 := by
  obtain ⟨_, hd, rfl⟩ := List.mem_filterMap.1 hd
  obtain ⟨pre, post, rfl⟩ := List.append_of_mem hd
  rw [List.append_cons] at run
  obtain ⟨u, first, -⟩ := run.split
  obtain ⟨u', before, step⟩ := first.last
  obtain ⟨lock, next, hi⟩ := step.working
  obtain ⟨es, hes, proper⟩ := proper_of_working before hi
  refine ⟨es, fun e he => ?_, proper⟩
  unfold deeds
  rw [List.filterMap_append]
  exact List.mem_append_left _ (hes e he)

/-! ## Nothing is done in between -/

/-- All that is done for the requests for a pod or touches the pod, whatever it is done for, is
complete reconciliations of these requests one after the other, and at the end what is underway.
Nothing touches a pod but the requests for it. -/
theorem one_reconciliation_at_a_time {retries workers : Nat} {steps : List (Option Deed)}
    (run : Run Step (ofWorkers retries workers) steps c)
    (honest : ∀ d ∈ deeds steps, Exchange.Honest d.exchange) :
    (∀ pod, c.InSequence pod
      ((deeds steps).filter fun d => d.isFor pod || d.exchange.1.subject? == some pod))
      ∧ ∀ d ∈ deeds steps, ∀ pod, d.exchange.1.subject? = some pod →
        pod = d.ticket.request.pod := by
  have own : ∀ d ∈ deeds steps, ∀ pod, d.exchange.1.subject? = some pod →
      pod = d.ticket.request.pod := by
    intro d hd pod hpod
    obtain ⟨es, hes, proper⟩ := proper_of_run run hd
    exact proper.subject (fun e he => honest _ (hes e he)) pod hpod
  refine ⟨fun pod => ?_, own⟩
  have same : ∀ d ∈ deeds steps,
      (d.isFor pod || d.exchange.1.subject? == some pod) = d.isFor pod := by
    intro d hd
    by_cases hpod : d.exchange.1.subject? = some pod
    · simp [Deed.isFor, own d hd pod hpod]
    · simp [hpod]
  rw [List.filter_congr same]
  exact (inSequence_of_run run).2

/-- Two workers take two requests for one pod. The second waits while the first reads the pod. -/
theorem second_worker_waits :
    ∃ (steps : List (Option Deed)) (c : Controller) (pod : ObjectKey),
      Run Step (ofWorkers 5 2) steps c ∧ (deeds steps).length = 1 ∧ c.turn 0 1 = .rests
        ∧ c.InSequence pod
          ((deeds steps).filter fun d => d.isFor pod || d.exchange.1.subject? == some pod) := by
  let pod : ObjectKey := ⟨"s", "p"⟩
  let r : Request := ⟨pod, .add, [], ""⟩
  have taken := Run.nil
    |>.snoc (Step.enqueue (ofWorkers 5 2) r)
    |>.snoc (Step.enqueue _ { r with direction := .remove })
    |>.snoc (Step.move (rfl : turn _ 0 0 = .moves _ _))
    |>.snoc (Step.move (rfl : turn _ 0 1 = .moves _ _))
    |>.snoc (Step.move (rfl : turn _ 0 0 = .moves _ _))
    |>.snoc (Step.move (rfl : turn _ 0 1 = .moves _ _))
  have run := taken
    |>.snoc (Step.move (rfl : turn _ 0 0 = .moves _ _))
    |>.snoc (Step.move (rfl : turn _ 0 1 = .moves _ _))
    |>.snoc (Step.move (rfl : turn _ 0 0 = .moves _ _))
    |>.snoc (Step.act (rfl : turn _ 0 0 = .acts (.getPod pod) _) rfl
      (Except.error (.notFound .pod pod)))
  refine ⟨_, _, pod, run, rfl, rfl, (one_reconciliation_at_a_time run ?_).1 pod⟩
  intro d hd
  obtain rfl := List.mem_singleton.1 hd
  rintro p ⟨⟩

end Controller

end NetAttach
