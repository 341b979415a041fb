-- SUMMARY: Every request that is worked off stems from an update of its pod, as it was when the request was made.
import NetAttach.Proofs.Changes
import NetAttach.Proofs.Drain
import NetAttach.Proofs.Trials

/-!
# Where requests stem from

The watch makes a request from an update of a pod, and the request is replayed as it
was made however often it fails and however long it is delayed. So what a request asks
for is the difference of two annotations of the past, of which the later one need not
be that of the pod any more when the request is delivered.
-/

namespace NetAttach

open Exchange (requests held?)
open Selection (keys notIn)

/-! ## Requests of an update -/

/-- The watch makes a request when it is told of an update, if its surroundings answer in some way. -/
def PodUpdate.Requests (u : PodUpdate) (r : Request) : Prop :=
  ∃ (σ : Type) (answer : (q : Action) → σ → q.Answer × σ) (s : σ),
    r ∈ requests ((handleUpdate u.old u.new).exchanges answer s)

theorem Request.mem_ifAny {r : Request} {pod : ObjectKey} {direction : Direction}
    {networks : List Selection} {netns : String} (h : r ∈ ifAny pod direction networks netns) :
    r = ⟨pod, direction, networks, netns⟩ := by
  unfold ifAny at h
  split at h
  · cases h
  · exact List.mem_singleton.1 h

/-- A request attaches what is new or detaches what is gone. -/
theorem PodUpdate.Requests.networks {u : PodUpdate} {r : Request} (h : u.Requests r) :
    ∃ before after, Selection.ofPod u.old = .ok before ∧ Selection.ofPod u.new = .ok after
      ∧ r.pod = u.new.key
      ∧ (r.direction = .add ∧ r.networks = notIn after before
        ∨ r.direction = .remove ∧ r.networks = notIn before after) := by
  obtain ⟨σ, answer, s, made⟩ := h
  obtain nothing | ⟨before, after, changed, readable, selected⟩ := requests_handleUpdate_cases answer s
  · rw [nothing] at made
    cases made
  · rw [requests_handleUpdate answer s changed readable selected] at made
    refine ⟨before, after, readable, selected, ?_⟩
    split at made
    · obtain made | made := List.mem_append.1 made
      · rw [Request.mem_ifAny made]
        exact ⟨rfl, .inl ⟨rfl, rfl⟩⟩
      · rw [Request.mem_ifAny made]
        exact ⟨rfl, .inr ⟨rfl, rfl⟩⟩
    · cases made

/-- What an update has attached is selected after it and was not before. -/
theorem PodUpdate.Requests.added {u : PodUpdate} {r : Request} (h : u.Requests r)
    (add : r.direction = .add) : ∃ before after, Selection.ofPod u.old = .ok before
      ∧ Selection.ofPod u.new = .ok after ∧ r.pod = u.new.key ∧ r.networks = notIn after before := by
  obtain ⟨before, after, readable, selected, own, ⟨-, networks⟩ | ⟨remove, -⟩⟩ := h.networks
  · exact ⟨before, after, readable, selected, own, networks⟩
  · cases add.symm.trans remove

/-! ## What is in a queue -/

/-- An item waits or is held back. -/
def WorkQueue.Has {α : Type} (q : WorkQueue α) (x : α) : Prop := x ∈ q.waiting ∨ x ∈ q.dirty

section

variable {α : Type} [DecidableEq α] {q r : WorkQueue α} {x y : α}

theorem WorkQueue.has_add (h : (q.add x).Has y) : q.Has y ∨ y = x := by
  unfold Has add at h
  split at h
  · dsimp only at h
    obtain h | h := h
    · split at h
      · exact .inl (.inl h)
      · obtain h | h := List.mem_append.1 h
        · exact .inl (.inl h)
        · exact .inr (List.mem_singleton.1 h)
    · obtain same | h := List.mem_cons.1 h
      · exact .inr same
      · exact .inl (.inr h)
  · exact .inl h

theorem WorkQueue.has_done (h : (q.done x).Has y) : q.Has y ∨ y = x := by
  unfold Has done at h
  dsimp only at h
  obtain h | h := h
  · split at h
    · obtain h | h := List.mem_append.1 h
      · exact .inl (.inl h)
      · exact .inr (List.mem_singleton.1 h)
    · exact .inl (.inl h)
  · exact .inl (.inr h)

theorem WorkQueue.has_take (took : q.take? = some (x, r)) : q.Has x ∧ (r.Has y → q.Has y) := by
  obtain ⟨waiting, dirty, -, -⟩ := take?_eq_some took
  refine ⟨.inl (by simp [waiting]), ?_⟩
  rintro (h | h)
  · exact .inl (waiting ▸ List.mem_cons_of_mem _ h)
  · rw [dirty] at h
    exact .inr (List.mem_of_mem_erase h)

end

/-- A worker brings nothing to the queue but what it holds, and gets nothing but what was there. -/
theorem Controller.Serves.has {q r : SharedQueue Ticket} {i : Nat} {p p' : Phase}
    (h : Serves q i p p' r) (t : Ticket) :
    (r.queue.Has t → q.queue.Has t ∨ p.ticket? = some t)
      ∧ (p'.ticket? = some t → q.queue.Has t ∨ p.ticket? = some t) := by
  have looked : (q.check i).2.queue.Has t → q.queue.Has t := by
    obtain ⟨x, -, took⟩ | ⟨-, -, same⟩ := q.queue_check i
    · exact (WorkQueue.has_take took).2
    · rw [same]
      exact id
  cases h with
  | register =>
    rw [SharedQueue.queue_register]
    exact ⟨.inl, nofun⟩
  | restart => exact ⟨.inl, nofun⟩
  | vain vain => exact ⟨fun has => .inl (looked has), nofun⟩
  | leave closed => exact ⟨fun has => .inl (looked has), nofun⟩
  | @get t' got =>
    refine ⟨fun has => .inl (looked has), ?_⟩
    rintro ⟨⟩
    obtain ⟨x, got', took⟩ | ⟨vain, -⟩ := q.queue_check i
    · cases got.symm.trans got'
      exact .inl (WorkQueue.has_take (y := t) took).1
    · exact absurd got (vain t)
  | pass before after => exact ⟨.inl, fun holds => .inr (before.trans (after.symm.trans holds))⟩
  | finish t' =>
    rw [SharedQueue.queue_done]
    refine ⟨fun has => ?_, nofun⟩
    obtain has | rfl := WorkQueue.has_done has
    · exact .inl has
    · exact .inr rfl

/-- To act for a request leaves the queue alone, and each worker with what it holds. -/
theorem Controller.Step.keeps_tickets {c c' : Controller} {d : Deed} (step : Step c (some d) c') :
    c'.queue = c.queue ∧ ∀ i, (c'.phase i).ticket? = (c.phase i).ticket? := by
  cases step with
  | @act clock i action next t lock rest turn phase answer =>
    obtain ⟨t, lock, k, hp, rfl⟩ := turn_acts turn
    have phases := phase_enter (d := c) rfl
      (show c.phase i ≠ .left from hp ▸ (Phase.noConfusion ·)) (.working t lock (k answer))
    refine ⟨rfl, fun j => ?_⟩
    rw [phases]
    split
    · next same => rw [same, hp]; rfl
    · rfl

/-! ## A site with its watch -/

/-- A site, and the requests that its watch has made, each with the update that it was made from. -/
structure Watched where
  site : Site
  made : List (Ticket × PodUpdate)

namespace Watched

/-- Workers without requests on a store without pods. -/
def start (retries workers : Nat) : Watched := ⟨.start retries workers, []⟩

/-- The controller of the site. -/
def controller (s : Watched) : Controller := s.site.controller

/-- The site with another controller. -/
def withController (s : Watched) (c : Controller) : Watched := { s with site.controller := c }

/-- One step of anyone: of a worker, whose store may fail, of others that write pods, or of the watch,
which may be told of any update. Requests that were made come back at any time. -/
inductive Step (s : Watched) : Option Deed → Watched → Prop where
  | move {c : Controller} {clock i : Nat} {effects : List Effect}
    (turn : s.controller.turn clock i = .moves c effects) : Step s none (s.withController c)
  | act {d : Deed} {site : Site} (trial : s.site.Trial (some d) site) : Step s (some d) { s with site }
  | apply (pod : Pod) : Step s none { s with site.store := (s.site.store.apply pod).2 }
  | update (pod : Pod) : Step s none { s with site.store := (s.site.store.update pod).2 }
  | watch {u : PodUpdate} {r : Request} (requests : u.Requests r) :
    Step s none ⟨(s.withController (s.controller.enqueue r)).site, s.made ++ [(s.controller.ticket r, u)]⟩
  | again {t : Ticket} {u : PodUpdate} (made : (t, u) ∈ s.made) :
    Step s none (s.withController (s.controller.add t))
  | shutDown : Step s none (s.withController s.controller.shutDown)

variable {s s' : Watched} {d : Option Deed} {steps : List (Option Deed)} {retries workers : Nat}

theorem Step.trial (step : Step s d s') : s.site.Trial d s'.site := by
  cases step with
  | move turn => exact .step (.move turn)
  | act trial => exact trial
  | apply pod => exact .step (.apply pod)
  | update pod => exact .step (.update pod)
  | watch requests => exact .step (.enqueue _)
  | again made => exact .step (.add _)
  | shutDown => exact .step .shutDown

theorem trials_of_run (run : Run Step (start retries workers) steps s) :
    Run Site.Trial (.start retries workers) steps s.site := by
  induction run with
  | nil => exact .nil
  | snoc _ step ih => exact ih.snoc step.trial

/-! ## The source of a request -/

/-- A request was made by the watch, from some update. -/
def HasMade (s : Watched) (t : Ticket) : Prop := ∃ u, (t, u) ∈ s.made

/-- What is in the queue or held by a worker was made by the watch, from an update that asks for it. -/
structure Sourced (s : Watched) : Prop where
  standard : s.controller.queue.limiter.IsStandard
  queued : ∀ t, s.controller.queue.shared.queue.Has t → s.HasMade t
  held : ∀ i t, (s.controller.phase i).ticket? = some t → s.HasMade t
  asked : ∀ t u, (t, u) ∈ s.made → u.Requests t.request

theorem sourced_start (retries workers : Nat) : (start retries workers).Sourced := by
  refine ⟨⟨_, _, rfl⟩, fun t has => ?_, fun i t holds => ?_, nofun⟩
  · obtain has | has := has <;> cases has
  · have holds : ((Controller.ofWorkers retries workers).phase i).ticket? = some t := holds
    rw [Controller.ticket?_ofWorkers] at holds
    cases holds

theorem Sourced.step (h : s.Sourced) (step : Step s d s') : s'.Sourced := by
  cases step with
  | @move c clock i effects turn =>
    obtain ⟨p, serves, workers, standard⟩ := Controller.serves_of_turn h.standard turn
    have phases := Controller.phase_set workers serves.ne_left
    have source (t : Ticket) (known : s.controller.queue.shared.queue.Has t
        ∨ (s.controller.phase i).ticket? = some t) : s.HasMade t :=
      known.elim (h.queued t) (h.held i t)
    refine ⟨standard, fun t has => source t ((serves.has t).1 has), fun j t holds => ?_, h.asked⟩
    have holds : (c.phase j).ticket? = some t := holds
    rw [phases] at holds
    split at holds
    · exact source t ((serves.has t).2 holds)
    · exact h.held j t holds
  | @act d site trial =>
    obtain step | ⟨none, -⟩ := trial.controller
    · obtain ⟨queue, phases⟩ := step.keeps_tickets
      refine ⟨queue ▸ h.standard, fun t has => h.queued t ?_, fun i t holds => h.held i t ?_, h.asked⟩
      · rw [controller, ← queue]
        exact has
      · rw [controller, ← phases]
        exact holds
    · cases none
  | apply pod => exact ⟨h.standard, h.queued, h.held, h.asked⟩
  | update pod => exact ⟨h.standard, h.queued, h.held, h.asked⟩
  | @watch u r requests =>
    have new (t : Ticket) (made : s.HasMade t) :
        ∃ v, (t, v) ∈ s.made ++ [(s.controller.ticket r, u)] := by
      obtain ⟨v, mem⟩ := made
      exact ⟨v, List.mem_append_left _ mem⟩
    refine ⟨h.standard, fun t has => ?_, fun i t holds => new t (h.held i t holds), fun t v mem => ?_⟩
    · have has : (s.controller.queue.shared.add (s.controller.ticket r)).queue.Has t := has
      rw [SharedQueue.queue_add] at has
      obtain has | rfl := WorkQueue.has_add has
      · exact new t (h.queued t has)
      · exact ⟨u, List.mem_append_right _ (List.mem_singleton.2 rfl)⟩
    · obtain mem | mem := List.mem_append.1 mem
      · exact h.asked t v mem
      · obtain ⟨rfl, rfl⟩ := Prod.mk.inj (List.mem_singleton.1 mem)
        exact requests
  | @again t u made =>
    refine ⟨h.standard, fun t' has => ?_, h.held, h.asked⟩
    have has : (s.controller.queue.shared.add t).queue.Has t' := has
    rw [SharedQueue.queue_add] at has
    obtain has | rfl := WorkQueue.has_add has
    · exact h.queued t' has
    · exact ⟨u, made⟩
  | shutDown => exact ⟨h.standard, h.queued, h.held, h.asked⟩

theorem sourced_of_run (run : Run Step (start retries workers) steps s) : s.Sourced :=
  run.invariant Sourced.step (sourced_start retries workers)

/-! ## What a request attaches -/

/-- The request that a worker acts for was made by the watch. -/
theorem Sourced.source (h : s.Sourced) {d : Deed} (step : Step s (some d) s') : s.HasMade d.ticket := by
  obtain step | ⟨none, -⟩ := step.trial.controller
  · obtain ⟨lock, next, phase⟩ := step.working
    refine h.held d.worker d.ticket ?_
    rw [show s.controller.phase d.worker = _ from phase]
    rfl
  · cases none

/-- The network that is asked for, and the requests to attach and to detach it. -/
private def asked : Selection := ⟨"net", "ns1", none, [], none, [], none⟩

private def requestFor (direction : Direction) : Request := ⟨⟨"ns1", "pod1"⟩, direction, [asked], ""⟩

private def attaching : Ticket := ⟨0, requestFor .add⟩

private def detaching : Ticket := ⟨1, requestFor .remove⟩

private def reads (pod : Pod) : Exchange := ⟨.getPod ⟨"ns1", "pod1"⟩, .ok pod⟩

private def finds : Exchange := ⟨.getDefinition ⟨"ns1", "net"⟩, .ok ⟨"ns1", "net", "\x7b\x7d"⟩⟩

private def calls (pod : Pod) (answer : Except Fault Plugin.Response) : Exchange :=
  ⟨.invoke (pluginCall .add (requestFor .add) pod asked "" ⟨"ns1", "net", "\x7b\x7d"⟩), answer⟩

private def fails (pod : Pod) : Exchange := calls pod (.error (.delegate .unreachable))

private def succeeds (pod : Pod) : Exchange := calls pod (.ok ⟨none⟩)

/-- A state that one worker gets to, and what it has done until then. -/
def Reached (deeds : List Deed) (s : Watched) : Prop :=
  ∃ steps, Run Step (start 5 1) steps s ∧ Controller.deeds steps = deeds

theorem Reached.snoc {deeds : List Deed} (reached : Reached deeds s) (step : Step s d s') :
    Reached (deeds ++ d.toList) s' := by
  obtain ⟨steps, run, rfl⟩ := reached
  exact ⟨_, run.snoc step, Controller.deeds_append steps d⟩

theorem Reached.moves {deeds : List Deed} {c : Controller} {effects : List Effect}
    (reached : Reached deeds s) (turn : s.controller.turn 0 0 = .moves c effects) :
    Reached deeds (s.withController c) := by
  simpa using reached.snoc (.move turn)

/-- The worker does something for its request, and is answered. -/
theorem Step.exchange {e : Exchange} {next : e.1.Answer → Controller} {t : Ticket} {lock : Nat}
    {rest : Control (Except Fault Unit)} {store : PodStore}
    (turn : s.controller.turn 0 0 = .acts e.1 next) (phase : s.controller.phase 0 = .working t lock rest)
    (answers : s.site.store.Answers e store) :
    Step s (some ⟨0, t, e⟩) { s with site := ⟨next e.2, store⟩ } :=
  .act (.step (.act turn phase e.2 answers))

/-- One worker with a request, and nothing in the queue. -/
private def alone (store : PodStore) (made : List (Ticket × PodUpdate)) (t : Ticket)
    (limiter : Limiter Ticket) (locks : Locks) (phase : Phase) : Watched :=
  ⟨⟨⟨5, made.length, ⟨⟨⟨[], [], [t], false⟩, false, []⟩, limiter⟩, locks, [phase]⟩, store⟩, made⟩

end Watched

end NetAttach
