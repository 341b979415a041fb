-- SUMMARY: A controller that watches the store it writes is never stirred by its own writes.
import NetAttach.Proofs.Distinct
import NetAttach.Proofs.History
import NetAttach.Proofs.Origins

/-!
# Writes that come back

A controller writes the statuses of pods into the store that it watches, so that each of its
writes comes back to it as an update. The store tells of the pod that the write replaced, and
from that pod to the new one only the status and the version differ. Both pods select the same
networks, or both are unreadable in the same way, and the watch asks for nothing.
-/

namespace NetAttach

open Exchange (requests writes)

/-! ## Programs that only report -/

/-- Whatever it is answered, the program does nothing but report. -/
def OnlyReports {α : Type} : Control α → Prop
  | .done _ => True
  | .act q next => (∃ n, q = .notify n) ∧ ∀ answer, OnlyReports (next answer)

section

variable {α : Type} {p p' : Control α}

theorem OnlyReports.path (h : OnlyReports p) {es : List Exchange} (path : Program.Path p es p') :
    OnlyReports p' := by
  induction path with
  | nil => exact h
  | snoc _ answer ih => exact ih.2 answer

theorem OnlyReports.requests {σ : Type} (h : OnlyReports p)
    (answer : (q : Action) → σ → q.Answer × σ) (s : σ) : requests (p.exchanges answer s) = [] := by
  induction p generalizing s with
  | done => rfl
  | act q next ih =>
    obtain ⟨⟨n, rfl⟩, later⟩ := h
    exact ih _ (later _) _

end

/-- An update that leaves the selections of the pod alone is passed over. -/
theorem onlyReports_handleUpdate {old new : Pod} (selects : Selection.ofPod old = Selection.ofPod new) :
    OnlyReports (handleUpdate old new) := by
  unfold handleUpdate
  split
  · trivial
  · rw [selects]
    cases Selection.ofPod new with
    | error cause => exact ⟨⟨_, rfl⟩, fun _ => trivial⟩
    | ok selected =>
      dsimp only
      rw [Selection.notIn_self]
      trivial

/-! ## Paths of the watch -/

/-- Surroundings that give these answers as long as they are asked for, and others then. -/
def Program.replay {Q : Type} [DecidableEq Q] {Answer : Q → Type} (other : (q : Q) → Answer q) (q : Q) :
    List (Exchange Answer) → Answer q × List (Exchange Answer)
  | [] => (other q, [])
  | ⟨q', r⟩ :: es => if same : q' = q then (same ▸ r, es) else (other q, [])

/-- Every path of a program is gone in some surroundings. -/
theorem Program.Path.exchanges {Q α : Type} [DecidableEq Q] {Answer : Q → Type}
    (other : (q : Q) → Answer q) {p p' : Program Answer α} {es : List (Exchange Answer)}
    (path : Path p es p') (later : List (Exchange Answer)) :
    p.exchanges (replay other) (es ++ later) = es ++ p'.exchanges (replay other) later := by
  induction path generalizing later with
  | nil => rfl
  | @snoc es q next _ r ih =>
    rw [List.append_assoc, ih, List.append_assoc]
    congr 1
    simp [Program.exchanges, replay]

/-- What the watch enqueues on some path is a request of the update. -/
theorem PodUpdate.requests_of_path {u : PodUpdate} {es : List Exchange} {r : Request}
    {next : Unit → Control Unit}
    (path : Program.Path (handleUpdate u.old u.new) es (.act (.enqueue r) next)) : u.Requests r := by
  let other (q : Action) : q.Answer :=
    (PodStore.respond (fun key => .error (.notFound .definition key)) (fun _ => ⟨none⟩) q .empty).1
  refine ⟨_, Program.replay other, es ++ [], ?_⟩
  rw [path.exchanges other, requests_append]
  exact List.mem_append_right _ (List.mem_cons_self ..)

/-! ## Announcements -/

namespace Feed

/-- A feed that has announced some updates more. -/
inductive Grows (f : Feed) : List PodUpdate → Feed → Prop where
  | same : Grows f [] f
  | send (u : PodUpdate) : Grows f [u] (f.send u)

variable {f f' : Feed} {us new : List PodUpdate}

/-- Nothing is pending for a subscriber that just came. -/
theorem pending_subscribe (f : Feed) : f.pending f.subscribe = [] := by
  simp [Feed.pending, subscribe]

/-- A subscriber that was up to date receives what is new. -/
theorem Grows.pending (h : f.Grows new f') (room : f.capacity ≠ 0) :
    f'.pending f.subscribe = new.map .update := by
  cases h with
  | same => exact f.pending_subscribe
  | send u =>
    obtain ⟨n, capacity⟩ := Nat.exists_eq_succ_of_ne_zero room
    simp [Feed.pending, subscribe, Feed.send, capacity]

theorem Grows.announced (h : f.Grows new f') (announced : f.Announced us) :
    f'.Announced (us ++ new) := by
  cases h with
  | same => rwa [List.append_nil]
  | send u => exact announced.send u

theorem Grows.capacity (h : f.Grows new f') : f'.capacity = f.capacity := by
  cases h <;> rfl

end Feed

namespace PodStore

variable {s s' : PodStore}

/-- What a store announces on the way to another: a subscriber that was up to date before receives it
then. -/
def announces (s s' : PodStore) : List Receipt := s'.feed.pending s.feed.subscribe

@[simp] theorem announces_self (s : PodStore) : s.announces s = [] := s.feed.pending_subscribe

theorem Puts.grows {new : Pod} (h : s.Puts new s') : ∃ us, s.feed.Grows us s'.feed := by
  rw [h.feed]
  cases s.pods.get? new.key with
  | none => exact ⟨_, .same⟩
  | some old => exact ⟨_, .send _⟩

theorem grows_after (s : PodStore) (c : Call) : ∃ us, s.feed.Grows us (s.after c).feed := by
  obtain ⟨new, -, puts⟩ | ⟨-, same⟩ := s.puts_or_same c
  · exact puts.grows
  · rw [same]
    exact ⟨_, .same⟩

end PodStore

/-! ## Writes of the controller -/

namespace Site

variable {s s' : Site} {steps : List (Option Deed)} {retries workers : Nat} {d : Deed}

/-- A deed leaves the store alone, or it replaces the pod that is stored at that moment by the same
pod with another status. -/
theorem replaced_of_trial (run : Run Trial (start retries workers) steps s) (trial : Trial s (some d) s') :
    s'.store = s.store ∨ ∃ stored updated, s.store.get d.ticket.request.pod = .ok stored
      ∧ s'.store = s.store.replace stored (stored.withStatus updated) := by
  obtain same | ⟨stored, _, updated, -, -, -, hstored, restated⟩ := altered_of_trial run trial
  · exact .inl same
  obtain ⟨worker, t, action, answer⟩ := d
  by_cases unwritten : ∀ pod, action ≠ .updatePod pod
  · exact .inl (PodStore.unchanged trial.answers unwritten)
  obtain ⟨written, write⟩ := not_forall_not.1 unwritten
  obtain rfl : action = _ := write
  refine (PodStore.changed trial.answers).imp_right fun ⟨new, update⟩ => ⟨stored, updated, hstored, ?_⟩
  have puts := PodStore.puts_update update
  -- the pod that changed is that of the request
  have own : new.key = t.request.pod := by
    by_contra other
    exact PodStore.get_ne_of_update update ((restated _).trans (if_neg other))
  have same : new = stored.withStatus updated :=
    Except.ok.inj ((PodStore.get_of_update update).symm.trans ((restated _).trans (if_pos own)))
  have old : s.store.pods.get? new.key = some stored := own ▸ PodStore.get_eq_ok.1 hstored
  have pods := puts.pods
  have feed := puts.feed
  rw [old] at feed
  rw [PodStore.replace, ← same, ← pods, ← show s'.store.feed = s.store.feed.send ⟨stored, new⟩ from feed]

end Site

/-! ## A watch on the store -/

/-- What a watch is about. -/
inductive Watch where
  | idle
  /-- It handles what it received, and has this left to do. -/
  | handles (received : Receipt) (rest : Control Unit)

/-- A controller whose watch is told of every write to its store. -/
structure Loop where
  /-- The site, and the requests that the watch has made from updates. -/
  watched : Watched
  place : Nat
  watch : Watch
  /-- What was announced of the writes of the controller. -/
  own : List Receipt
  /-- What was announced of the writes of others. -/
  others : List Receipt

namespace Loop

/-- Workers without requests on a store without pods. -/
def start (retries workers : Nat) : Loop := ⟨.start retries workers, 0, .idle, [], []⟩

def controller (s : Loop) : Controller := s.watched.controller

def store (s : Loop) : PodStore := s.watched.site.store

/-- One step of anyone: of a worker, whose store may fail, of others that write pods, or of the watch,
which subscribes, receives and handles what it received, with any answers. Requests that were made
come back at any time. -/
inductive Step (s : Loop) : Option Deed → Loop → Prop where
  | move {c : Controller} {clock i : Nat} {effects : List Effect}
    (turn : s.controller.turn clock i = .moves c effects) :
    Step s none { s with watched := s.watched.withController c }
  | act {d : Deed} {site : Site} (trial : s.watched.site.Trial (some d) site) :
    Step s (some d) { s with watched.site := site, own := s.own ++ s.store.announces site.store }
  | others (c : PodStore.Call) :
    Step s none { s with
      watched.site.store := s.store.after c, others := s.others ++ s.store.announces (s.store.after c) }
  | subscribe : Step s none { s with place := s.store.feed.subscribe }
  | receive {r : Receipt} {place : Nat} (idle : s.watch = .idle)
    (received : s.store.feed.receive? s.place = some (r, place)) :
    Step s none { s with place, watch := .handles r (handleReceipt r) }
  | ask {r : Receipt} {q : Action} {next : q.Answer → Control Unit}
    (handles : s.watch = .handles r (.act q next)) (asks : ∀ request, q ≠ .enqueue request)
    (answer : q.Answer) : Step s none { s with watch := .handles r (next answer) }
  | enqueue {u : PodUpdate} {r : Request} {next : Unit → Control Unit}
    (handles : s.watch = .handles (.update u) (.act (.enqueue r) next)) :
    Step s none { s with
      watched := ⟨(s.watched.withController (s.controller.enqueue r)).site,
        s.watched.made ++ [(s.controller.ticket r, u)]⟩
      watch := .handles (.update u) (next ()) }
  | finish {r : Receipt} (handles : s.watch = .handles r (.done ())) : Step s none { s with watch := .idle }
  | again {t : Ticket} {u : PodUpdate} (made : (t, u) ∈ s.watched.made) :
    Step s none { s with watched := s.watched.withController (s.controller.add t) }
  | shutDown : Step s none { s with watched := s.watched.withController s.controller.shutDown }

variable {s s' : Loop} {d : Option Deed} {steps : List (Option Deed)} {retries workers : Nat}

/-- All that was announced is told apart by who wrote it. Of its own writes the watch only reports, so
that whatever it makes a request from was written by others. -/
structure Sound (retries workers : Nat) (s : Loop) : Prop where
  reached : ∃ steps, Run Watched.Step (.start retries workers) steps s.watched
  capacity : s.store.feed.capacity = PodStore.feedCapacity
  announced : ∃ us, s.store.feed.Announced us ∧ ∀ u ∈ us, .update u ∈ s.own ∨ .update u ∈ s.others
  own : ∀ r ∈ s.own, OnlyReports (handleReceipt r)
  handles : ∀ r rest, s.watch = .handles r rest →
    (r ∈ s.others ∨ OnlyReports rest) ∧ ∃ es, Program.Path (handleReceipt r) es rest
  made : ∀ t u, (t, u) ∈ s.watched.made → .update u ∈ s.others

theorem sound_start (retries workers : Nat) : (start retries workers).Sound retries workers where
  reached := ⟨[], .nil⟩
  capacity := rfl
  announced := ⟨[], Feed.announced_ofCapacity _, nofun⟩
  own := nofun
  handles := nofun
  made := nofun

namespace Sound

/-- The controller or its queue goes on by itself. -/
theorem withController (h : s.Sound retries workers) {c : Controller}
    (step : Watched.Step s.watched none (s.watched.withController c)) :
    Sound retries workers { s with watched := s.watched.withController c } := by
  obtain ⟨steps, run⟩ := h.reached
  exact { h with reached := ⟨_, run.snoc step⟩ }

/-- The watch goes on, with no regard to the controller. -/
theorem withWatch (h : s.Sound retries workers) {place : Nat} {watch : Watch}
    (handles : ∀ r rest, watch = .handles r rest →
      (r ∈ s.others ∨ OnlyReports rest) ∧ ∃ es, Program.Path (handleReceipt r) es rest) :
    Sound retries workers { s with place, watch } :=
  { h with handles }

/-- A write that others made, or that the watch only reports, is announced. -/
theorem announce (h : s.Sound retries workers) {d : Option Deed} {site : Site} (own others : List Receipt)
    (step : Watched.Step s.watched d { s.watched with site })
    (grows : ∃ new, s.store.feed.Grows new site.store.feed)
    (told : ∀ r ∈ s.store.announces site.store, r ∈ own ∨ r ∈ others)
    (reports : ∀ r ∈ own, OnlyReports (handleReceipt r)) :
    Sound retries workers
      { s with watched.site := site, own := s.own ++ own, others := s.others ++ others } := by
  obtain ⟨steps, run⟩ := h.reached
  obtain ⟨us, announced, known⟩ := h.announced
  obtain ⟨new, grows⟩ := grows
  have room : s.store.feed.capacity ≠ 0 := h.capacity ▸ (by decide)
  refine ⟨⟨_, run.snoc step⟩, grows.capacity.trans h.capacity,
    ⟨us ++ new, grows.announced announced, fun u mem => ?_⟩, fun r mem => ?_,
    fun r rest handles => ?_, fun t u made => List.mem_append_left _ (h.made t u made)⟩
  · obtain mem | mem := List.mem_append.1 mem
    · exact (known u mem).imp (List.mem_append_left _) (List.mem_append_left _)
    · refine (told (.update u) ?_).imp (List.mem_append_right _) (List.mem_append_right _)
      rw [PodStore.announces, grows.pending room]
      exact List.mem_map_of_mem mem
  · obtain mem | mem := List.mem_append.1 mem
    · exact h.own r mem
    · exact reports r mem
  · exact (h.handles r rest handles).imp_left (Or.imp_left (List.mem_append_left _))

/-- What the watch receives was written by others, or it only reports it. -/
theorem received (h : s.Sound retries workers) {r : Receipt} {place : Nat}
    (received : s.store.feed.receive? s.place = some (r, place)) :
    r ∈ s.others ∨ OnlyReports (handleReceipt r) := by
  obtain ⟨us, announced, known⟩ := h.announced
  rw [announced.receive?] at received
  split at received
  · cases received
    exact .inr ⟨⟨_, rfl⟩, fun _ => trivial⟩
  · obtain ⟨u, here, received⟩ := Option.map_eq_some_iff.1 received
    cases received
    exact (known u (List.mem_of_getElem? here)).symm.imp_right (h.own _)

end Sound

/-- A deed leaves the store alone, or one update is announced of which the watch only reports. -/
theorem Sound.deed (h : s.Sound retries workers) {d : Deed} {site : Site}
    (trial : s.watched.site.Trial (some d) site) :
    site.store = s.store ∨ ∃ stored new, s.store.get d.ticket.request.pod = .ok stored
      ∧ site.store.get d.ticket.request.pod = .ok new
      ∧ s.store.announces site.store = [.update ⟨stored, new⟩]
      ∧ s.store.feed.Grows [⟨stored, new⟩] site.store.feed
      ∧ OnlyReports (handleUpdate stored new) := by
  obtain ⟨steps, run⟩ := h.reached
  refine (Site.replaced_of_trial (Watched.trials_of_run run) trial).imp_right ?_
  rintro ⟨stored, updated, hstored, replaced⟩
  have own : stored.key = d.ticket.request.pod :=
    (Site.learned_of_trials (Watched.trials_of_run run)).named (PodStore.get_eq_ok.1 hstored)
  have grows : s.store.feed.Grows [⟨stored, stored.withStatus updated⟩] site.store.feed := by
    rw [replaced]
    exact .send _
  refine ⟨stored, stored.withStatus updated, hstored, ?_, ?_, grows,
    onlyReports_handleUpdate Selection.ofPod_withStatus.symm⟩
  · rw [replaced, ← own]
    exact PodStore.get_eq_ok.2 (Keyed.get?_put_self ..)
  · exact grows.pending (h.capacity ▸ (by decide))

theorem Sound.step (h : s.Sound retries workers) (step : Step s d s') : s'.Sound retries workers := by
  cases step with
  | move turn => exact h.withController (.move turn)
  | again made => exact h.withController (.again made)
  | shutDown => exact h.withController .shutDown
  | subscribe => exact h.withWatch h.handles
  | finish handles => exact h.withWatch nofun
  | receive idle received =>
    refine h.withWatch ?_
    rintro r rest ⟨⟩
    exact ⟨h.received received, [], .nil⟩
  | ask handles asks answer =>
    obtain ⟨known, es, path⟩ := h.handles _ _ handles
    refine h.withWatch ?_
    rintro r rest ⟨⟩
    exact ⟨known.imp_right fun reports => reports.2 answer, _, path.snoc answer⟩
  | @act d site trial =>
    have reports : (∃ new, s.store.feed.Grows new site.store.feed)
        ∧ ∀ r ∈ s.store.announces site.store, OnlyReports (handleReceipt r) := by
      obtain same | ⟨stored, new, -, -, announces, grows, reports⟩ := h.deed trial
      · rw [same, PodStore.announces_self]
        exact ⟨⟨_, .same⟩, nofun⟩
      · rw [announces]
        exact ⟨⟨_, grows⟩, List.forall_mem_singleton.2 reports⟩
    have announced := h.announce _ [] (.act trial) reports.1 (fun _ mem => .inl mem) reports.2
    rwa [List.append_nil] at announced
  | others c =>
    have wrote : Watched.Step s.watched none { s.watched with site.store := s.store.after c }
        ∨ s.store.after c = s.store := by
      cases c with
      | apply pod => exact .inl (.apply pod)
      | update pod => exact .inl (.update pod)
      | get key => exact .inr rfl
    obtain step | same := wrote
    · have announced := h.announce [] _ step (s.store.grows_after c) (fun _ mem => .inr mem) nofun
      rwa [List.append_nil] at announced
    · rw [same, PodStore.announces_self, List.append_nil]
      exact h
  | @enqueue u r next handles =>
    obtain ⟨known, es, path⟩ := h.handles _ _ handles
    have other : .update u ∈ s.others := known.resolve_right fun reports => nomatch reports.1
    obtain ⟨steps, run⟩ := h.reached
    refine ⟨⟨_, run.snoc (.watch (PodUpdate.requests_of_path path))⟩, h.capacity, h.announced, h.own, ?_,
      fun t v made => ?_⟩
    · rintro _ _ ⟨⟩
      exact ⟨.inl other, _, path.snoc (q := Action.enqueue r) ()⟩
    · obtain made | made := List.mem_append.1 made
      · exact h.made t v made
      · obtain ⟨-, rfl⟩ := Prod.mk.inj (List.mem_singleton.1 made)
        exact other

theorem sound_of_run (run : Run Step (start retries workers) steps s) : s.Sound retries workers :=
  run.invariant Sound.step (sound_start retries workers)

/-- Whoever else writes in between, and whatever fails: a deed of the controller leaves the store as it
is, or the store announces one update of the pod that was stored at that moment, and whoever handles
it only reports. So a request that waits or is held by a worker stems from an update that others have
written, and no update of the controller ever asks for a request. -/
theorem requests_stem_from_others (run : Run Step (start retries workers) steps s) :
    (∀ d s', Step s (some d) s' → (s'.store = s.store ∧ s.store.announces s'.store = [])
      ∨ ∃ stored new, s.store.get d.ticket.request.pod = .ok stored
        ∧ s'.store.get d.ticket.request.pod = .ok new
        ∧ s.store.announces s'.store = [.update ⟨stored, new⟩]
        ∧ OnlyReports (handleUpdate stored new))
    ∧ (∀ t, (s.controller.queue.shared.queue.Has t ∨ ∃ i, (s.controller.phase i).ticket? = some t) →
        ∃ u, (t, u) ∈ s.watched.made)
    ∧ ∀ t u, (t, u) ∈ s.watched.made →
        u.Requests t.request ∧ .update u ∈ s.others ∧ .update u ∉ s.own := by
  have sound := sound_of_run run
  obtain ⟨steps', reached⟩ := sound.reached
  have sourced := Watched.sourced_of_run reached
  refine ⟨fun d s' step => ?_, fun t known => ?_, fun t u made => ?_⟩
  · cases step with
    | act trial =>
      obtain same | ⟨stored, new, hstored, hnew, announces, -, reports⟩ := sound.deed trial
      · exact .inl ⟨same, (congrArg s.store.announces same).trans s.store.announces_self⟩
      · exact .inr ⟨stored, new, hstored, hnew, announces, reports⟩
  · exact known.elim (sourced.queued t) fun ⟨i, holds⟩ => sourced.held i t holds
  · have asked := sourced.asked t u made
    refine ⟨asked, sound.made t u made, fun own => ?_⟩
    obtain ⟨_, answer, state, mem⟩ := asked
    have reports : OnlyReports (handleUpdate u.old u.new) := sound.own _ own
    rw [reports.requests answer state] at mem
    cases mem

/-! ## A run -/

/-- What a worker does on the site is done in the loop. -/
private theorem reach {s₀ : Loop} (run : Run Step s₀ steps s) {ds : List (Option Deed)} {site : Site}
    (acts : Run (fun x d y => ∃ e, d = some e ∧ Site.Trial x d y) s.watched.site ds site) :
    ∃ steps s', Run Step s₀ steps s' ∧ s'.watched.site = site ∧ s'.watched.made = s.watched.made := by
  induction acts with
  | nil => exact ⟨steps, s, run, rfl, rfl⟩
  | snoc _ act ih =>
    obtain ⟨steps, s', run, rfl, made⟩ := ih
    obtain ⟨d, rfl, trial⟩ := act
    exact ⟨_, _, run.snoc (.act trial), rfl, made⟩

/-- A pod is to have a network, and the worker records it: the watch reports nothing but its status. -/
theorem recorded_network_is_not_requested_again :
    ∃ (steps : List (Option Deed)) (s s' : Loop) (d : Deed) (stored new : Pod) (t : Ticket) (u : PodUpdate),
      Run Step (start 5 1) steps s ∧ Step s (some d) s'
        ∧ s.store.announces s'.store = [.update ⟨stored, new⟩]
        ∧ new.interfaces = ["net1"] ∧ OnlyReports (handleUpdate stored new)
        ∧ (t, u) ∈ s.watched.made ∧ .update u ∈ s.others := by
  let pod (networks : String) (version : Nat) : Pod :=
    ⟨"ns1", "pod1", "u1", version, (∅ : Dict String).insert networksKey networks, []⟩
  let net : Selection := ⟨"net", "ns1", some "net1", [], none, [], none⟩
  let request : Request := ⟨⟨"ns1", "pod1"⟩, .add, [net], ""⟩
  let change : PodUpdate := ⟨pod "" 1, pod "net@net1" 2⟩
  let store := ((PodStore.empty.apply (pod "" 0)).2.apply (pod "net@net1" 0)).2
  let answer := PodStore.respond (fun key => .ok ⟨key.space, key.name, "\x7b\x7d"⟩)
    fun call => ⟨some ⟨"", [⟨call.interface, "", ""⟩], [], [], .empty⟩⟩
  let program := (reconcile 5 request).run
  have handles : ∃ next, handleReceipt (.update change) = .act (.enqueue request) next := by
    have readable : Selection.ofPod change.old = .ok [] := mem_toOption.1 (by decide +kernel)
    have selected : Selection.ofPod change.new = .ok [net] := mem_toOption.1 (by decide +kernel)
    have changed : change.old.annotations ≠ change.new.annotations := by decide +kernel
    change ∃ next, handleUpdate change.old change.new = _
    unfold handleUpdate
    rw [if_neg changed, readable, selected]
    exact ⟨_, rfl⟩
  obtain ⟨next, handles⟩ := handles
  obtain ⟨_, now, taken, phase, stored, made⟩ : ∃ steps now, Run Step (start 5 1) steps now
      ∧ now.controller.phase 0 = .working ⟨0, request⟩ 0 program ∧ now.store = store
      ∧ (⟨0, request⟩, change) ∈ now.watched.made := by
    have taken := Run.nil
      |>.snoc (Step.others (s := start 5 1) (.apply (pod "" 0)))
      |>.snoc (.others (.apply (pod "net@net1" 0)))
      |>.snoc (.receive rfl (rfl : Feed.receive? _ 0 = some (.update change, 1)))
      |>.snoc (.enqueue (congrArg (Watch.handles _) handles))
      |>.snoc (.move (rfl : Controller.turn _ 0 0 = .moves _ _))
      |>.snoc (.move (rfl : Controller.turn _ 0 0 = .moves _ _))
      |>.snoc (.move (rfl : Controller.turn _ 0 0 = .moves _ _))
      |>.snoc (.move (rfl : Controller.turn _ 0 0 = .moves _ _))
    exact ⟨_, _, taken, rfl, rfl, List.mem_singleton.2 rfl⟩
  obtain ⟨written, recorded, key, listed⟩ : ∃ new ∈ writes (program.exchanges answer store),
      new.key = request.pod ∧ new.interfaces = ["net1"] := by
    decide +kernel
  obtain ⟨_, mem⟩ := Exchange.mem_writes.1 recorded
  have answers (q : Action) (s : PodStore) : s.Answers ⟨q, (answer q s).1⟩ (answer q s).2 :=
    PodStore.answers_respond _ _ q s
  have course := Program.course_run answers program store
  rw [← stored] at course mem
  have begun : Run (fun x d y => ∃ e, d = some e ∧ Site.Trial x d y)
    now.watched.site [] now.watched.site := .nil
  obtain ⟨ds, x, y, acts, step⟩ :=
    Site.act_of_course (fun step => ⟨_, rfl, .step step⟩) course mem begun phase
  obtain ⟨steps, s, run, rfl, same⟩ := reach taken acts
  have act := Step.act (.step step)
  obtain ⟨deeds, -, sources⟩ := requests_stem_from_others run
  obtain ⟨-, other, -⟩ := sources _ _ (same ▸ made)
  obtain ⟨unchanged, -⟩ | ⟨old, new, hold, hnew, announces, reports⟩ := deeds _ _ act
  · exact absurd (congrArg (PodStore.get · written.key) unchanged)
      (PodStore.get_ne_of_update step.answers)
  · have same' : new = written :=
      Except.ok.inj (hnew.symm.trans (key ▸ PodStore.get_of_update step.answers))
    exact ⟨steps, s, _, _, old, new, _, change, run, act, announces, same' ▸ listed, reports,
      same ▸ made, other⟩

end Loop

end NetAttach
