-- SUMMARY: A controller on a store that others write and that may fail: what a request detaches is its own.
import NetAttach.Proofs.Warrants

/-!
# Controllers on a store that may fail

Besides being written by others, a store may fail to answer a read or a write, and a
write may be carried out although its answer is lost. A pod that a worker holds was
stored once all the same, and it is the stored one whenever a write of it changes the
store. So what warrants an action of a request is true of the store.
-/

namespace NetAttach

open Program Exchange

/-! ## Stores that fail -/

namespace PodStore

/-- A store fails to answer, for whatever cause. It may have carried out the write. -/
inductive Falters (s : PodStore) : Exchange → PodStore → Prop where
  | get (key : ObjectKey) (cause : Fault) : Falters s ⟨.getPod key, .error cause⟩ s
  | refuse (pod : Pod) (cause : Fault) : Falters s ⟨.updatePod pod, .error cause⟩ s
  | lose (pod : Pod) (cause : Fault) : Falters s ⟨.updatePod pod, .error cause⟩ (s.update pod).2

variable {s s' : PodStore} {e : Exchange}

theorem Falters.stores_or_same (h : s.Falters e s') : s' = s ∨ ∃ new, s.Stores new s' := by
  cases h with
  | lose pod => exact PodStore.stores_or_same s pod
  | _ => exact .inl rfl

theorem Falters.brings {pod : Pod} (h : s.Falters e s') : ¬Brings e pod := by
  cases h <;> exact nofun

/-- What writes no pod leaves the store alone. -/
theorem unchanged (h : s.Answers e s' ∨ s.Falters e s') (unwritten : ∀ pod, e.1 ≠ .updatePod pod) :
    s' = s := by
  obtain answers | falters := h
  · obtain ⟨action, answer⟩ := e
    cases action with
    | getPod key => exact answers.2
    | updatePod pod => exact absurd rfl (unwritten pod)
    | _ => exact answers
  · cases falters with
    | get => rfl
    | refuse pod | lose pod => exact absurd rfl (unwritten pod)

/-- A store changes only with a write that brings the version of the stored pod. -/
theorem changed {pod : Pod} {r : Except Fault Pod}
    (h : s.Answers ⟨.updatePod pod, r⟩ s' ∨ s.Falters ⟨.updatePod pod, r⟩ s') :
    s' = s ∨ ∃ new, s.update pod = (.ok new, s') := by
  have carried : s' = (s.update pod).2 → s' = s ∨ ∃ new, s.update pod = (.ok new, s') := by
    rintro rfl
    cases update : s.update pod with
    | mk r s' =>
      cases r with
      | error cause => exact .inl (update_eq_error update)
      | ok new => exact .inr ⟨new, rfl⟩
  obtain answers | falters := h
  · exact carried (congrArg Prod.snd (show s.update pod = (r, s') from answers)).symm
  · cases falters with
    | refuse => exact .inl rfl
    | lose => exact carried rfl

end PodStore

/-! ## Stored pods -/

/-- The interfaces that the status of a pod lists. -/
def Pod.interfaces (pod : Pod) : List String :=
  ((Attachment.ofPod pod).toOption.getD []).map (·.interface)

/-- The pod of a name gets a new status, and nothing else is changed. -/
def PodStore.Restates (s : PodStore) (key : ObjectKey) (pod : Pod) (updated : List Attachment)
    (s' : PodStore) : Prop :=
  s.get key = .ok pod
    ∧ ∀ other, s'.get other = if other = key then .ok (pod.withStatus updated) else s.get other

namespace Site

/-! ## Steps -/

/-- One step of anyone on a store that may fail. -/
inductive Trial (s : Site) : Option Deed → Site → Prop where
  | step {d : Option Deed} {s' : Site} (step : Step s d s') : Trial s d s'
  | falter {clock i lock : Nat} {action : Action} {next : action.Answer → Controller} {t : Ticket}
    {rest : Control (Except Fault Unit)} {store : PodStore}
    (turn : s.controller.turn clock i = .acts action next)
    (phase : s.controller.phase i = .working t lock rest) (answer : action.Answer)
    (falters : s.store.Falters ⟨action, answer⟩ store) :
    Trial s (some ⟨i, t, action, answer⟩) ⟨next answer, store⟩

variable {s s' : Site} {d : Option Deed} {steps : List (Option Deed)} {retries workers : Nat}

theorem Trial.controller (trial : Trial s d s') :
    Controller.Step s.controller d s'.controller ∨ (d = none ∧ s'.controller = s.controller) := by
  cases trial with
  | step step => exact step.controller
  | falter turn phase answer falters => exact .inl (.act turn phase answer)

theorem Trial.stores_or_same (trial : Trial s d s') :
    s'.store = s.store ∨ ∃ new, s.store.Stores new s'.store := by
  cases trial with
  | step step => exact step.stores_or_same
  | falter turn phase answer falters => exact falters.stores_or_same

theorem Trial.answers {d : Deed} (trial : Trial s (some d) s') :
    s.store.Answers d.exchange s'.store ∨ s.store.Falters d.exchange s'.store := by
  cases trial with
  | step step => exact .inl step.answers
  | falter turn phase answer falters => exact .inr falters

open Controller (deeds)

theorem learned_of_trials (run : Run Trial (start retries workers) steps s) : Learned steps s := by
  refine Run.invariant_with (fun h trial => ?_) ⟨PodStore.named_empty, nofun, nofun⟩ run
  refine h.grow trial.stores_or_same fun he pod brings => ?_
  obtain rfl := Option.mem_toList.1 he
  obtain answers | falters := trial.answers
  · exact answers.brings h.named brings
  · exact absurd brings falters.brings

/-! ## Warranted steps -/

/-- All that was done for the pod of a request before a worker acts for it: complete reconciliations,
and what is underway. -/
def Precedes (retries : Nat) (steps : List (Option Deed)) (d : Deed) (es : List Exchange) : Prop :=
  ∃ past : List Reconciliation, (∀ x ∈ past, x.Complete retries)
    ∧ (deeds steps).filter (Deed.isFor d.ticket.request.pod)
      = past.flatMap Reconciliation.deeds ++ es.map (Deed.mk d.worker d.ticket)

theorem conflictRetries_of_run {c : Controller}
    (run : Run Controller.Step (.ofWorkers retries workers) steps c) : c.conflictRetries = retries :=
  run.invariant (I := fun c => c.conflictRetries = retries)
    (fun same step => step.conflictRetries.trans same) rfl

/-- An action of a worker is warranted by what it did for the request before. The pod that it holds was
stored, and is that of the request. -/
theorem warranted_of_trial (run : Run Trial (start retries workers) steps s) {d : Deed}
    (trial : Trial s (some d) s') :
    ∃ es, Precedes retries steps d es ∧ d.ticket.request.Warrants es d.exchange.1
      ∧ (∀ pod, held? es = some pod → s.store.Issued pod)
      ∧ ∀ key, d.exchange.1.subject? = some key → key = d.ticket.request.pod := by
  obtain ⟨steps', run', hdeeds⟩ := controller_of_steps Trial.controller run
  have step : Controller.Step s.controller (some d) s'.controller :=
    trial.controller.resolve_right fun h => nomatch h.1
  obtain ⟨lock, next, hi⟩ := step.working
  obtain ⟨past, es, complete, htrace, own, path⟩ := Controller.path_of_working run' hi
  rw [hdeeds] at htrace own
  rw [conflictRetries_of_run run'] at complete path
  have learned := learned_of_trials run
  have warrants := (Request.reconcile_warrants retries).path path
  have proper := (Request.reconcile_keeps retries).path path
  rw [List.nil_append] at warrants proper
  refine ⟨es, ⟨past, complete, htrace⟩, warrants.1, fun pod holds => ?_, ?_⟩
  · obtain ⟨e, mem, brings⟩ := brings_of_held? holds
    exact learned.issued _ (own e mem) pod brings
  · exact proper.1.subject fun e mem => learned.honest _ (own e mem)

/-- A write of a pod that was stored once changes the store only if it still is the stored one. -/
theorem Trial.store_of_written {d : Deed} (trial : Trial s (some d) s') {pod : Pod}
    {updated : List Attachment} (issued : s.store.Issued pod)
    (write : d.exchange.1 = .updatePod (pod.annotate statusKey (Attachment.renderList updated))) :
    s'.store = s.store ∨ s.store.Restates pod.key pod updated s'.store := by
  obtain ⟨worker, t, action, answer⟩ := d
  obtain rfl : action = _ := write
  obtain same | ⟨new, update⟩ := PodStore.changed trial.answers
  · exact .inl same
  · obtain ⟨stored, hstored, version, rfl, put⟩ := PodStore.update_eq_ok update
    -- the version tells that the pod was not written since the worker learned it
    obtain rfl := issued.eq_stored hstored version
    exact .inr ⟨PodStore.get_eq_ok.2 hstored, PodStore.get_put put⟩

/-- A worker makes every exchange of a course that the store allows, whatever else the steps include. -/
theorem act_of_course {R : Site → Option Deed → Site → Prop}
    (acts : ∀ {s d s'}, Step s (some d) s' → R s (some d) s') {s₀ : Site} {c : Controller}
    {i lock : Nat} {t : Ticket} {p : Control (Except Fault Unit)} {es : List Exchange}
    {e : Exchange} {r : Except Fault Unit} {store store' : PodStore}
    (course : p.Course PodStore.Answers store es r store') (mem : e ∈ es)
    (run : Run R s₀ steps ⟨c, store⟩) (hi : c.phase i = .working t lock p) :
    ∃ steps s s', Run R s₀ steps s ∧ Step s (some ⟨i, t, e⟩) s' := by
  induction course generalizing c steps with
  | done => cases mem
  | @act q next r store _ _ _ _ answer _ ih =>
    have step : Step ⟨c, store⟩ _ _ := .act (Controller.turn_working 0 hi) hi r answer
    obtain _ | ⟨_, later⟩ := mem
    · exact ⟨_, _, _, run, step⟩
    · refine ih later (run.snoc (acts step)) ?_
      have hne : c.phase i ≠ .left := by rw [hi]; nofun
      exact (Controller.phase_enter (d := c) rfl hne _ i).trans (if_pos rfl)

/-! ## Removal -/

/-- Whoever else writes, and whatever fails: a request to remove networks has the plugin detach only
what a network of the request refers to on the pod held, by the name of its interface. A write of such
a request drops one attachment from the status that is stored at that moment, with the network and the
interface that the plugin has detached before, and nothing else was written since. A request tells of
what it removed after such a write, or if the attachment is gone from the pod held. -/
theorem only_what_was_detached_is_dropped (run : Run Trial (start retries workers) steps s) {d : Deed}
    (trial : Trial s (some d) s') (remove : d.ticket.request.direction = .remove) :
    ∃ es, Precedes retries steps d es
      ∧ (∀ call, d.exchange.1 = .invoke call → ∃ pod network attached definition,
          d.ticket.request.Picks es pod network attached
            ∧ call.command = .del ∧ call.interface = attached.interface
            ∧ call = pluginCall .del d.ticket.request pod network attached.interface definition)
      ∧ (s'.store = s.store ∨ ∃ stored network attached front b back,
          d.ticket.request.Detaching es network attached []
            ∧ network ∈ d.ticket.request.networks
            ∧ Attachment.ofPod stored = .ok (front ++ b :: back)
            ∧ b.network = network.network ∧ b.interface = attached.interface
            ∧ s.store.Restates d.ticket.request.pod stored (front ++ back) s'.store
            ∧ ((∀ a ∈ front ++ b :: back, ∀ m ∈ a.extra.entries, m.2.Leaves Json.Exact) →
                Attachment.ofPod (stored.withStatus (front ++ back)) = .ok (front ++ back)))
      ∧ ∀ event, d.exchange.1 = .emit event → ∃ network attached,
          (∃ new, d.ticket.request.Detaching es network attached [new])
            ∨ ∃ pod, d.ticket.request.Detaching es network attached [] ∧ held? es = some pod
              ∧ Request.Gone attached pod := by
  obtain ⟨es, precedes, warrants, issued, own⟩ := warranted_of_trial run trial
  obtain ⟨worker, t, action, answer⟩ := d
  have warrants : t.request.Warrants es action := warrants
  have idle : (∀ pod, action ≠ .updatePod pod) → s'.store = s.store :=
    PodStore.unchanged trial.answers
  refine ⟨es, precedes, ?_⟩
  cases warrants with
  | read | define | tell => exact ⟨nofun, .inl (idle nofun), nofun⟩
  | make add | record add | announce add => cases add.symm.trans remove
  | undo _ picks =>
    refine ⟨fun call same => ?_, .inl (idle nofun), nofun⟩
    obtain rfl := Action.invoke.inj same
    exact ⟨_, _, _, _, picks, rfl, rfl, rfl⟩
  | report _ dropped => exact ⟨nofun, .inl (idle nofun), fun _ _ => ⟨_, _, dropped⟩⟩
  | @drop pod network attached b front back _ detaching holds status network_eq interface_eq =>
    refine ⟨nofun, ?_, nofun⟩
    obtain same | restates := trial.store_of_written (issued pod holds) rfl
    · exact .inl same
    obtain ⟨selected, attached_eq⟩ := detaching.selected
    have same_network : b.network = network.network := network_eq.trans attached_eq
    have key : pod.key = t.request.pod := own _ rfl
    exact .inr ⟨pod, network, attached, front, b, back, detaching, selected, status, same_network,
      interface_eq, key ▸ restates,
      fun doubles => Attachment.ofPod_altered status doubles (.drop remove selected same_network)⟩

/-- A pod has two attachments of a network, and asks for the first by its interface. The network is
removed without an interface: the second is dropped. -/
theorem unclaimed_attachment_is_dropped :
    ∃ (steps : List (Option Deed)) (s s' : Site) (d : Deed) (stored new : Pod) (b : Attachment)
      (front back : List Attachment),
      Run Trial (start 5 1) steps s ∧ Trial s (some d) s' ∧ d.ticket.request.direction = .remove
        ∧ Attachment.ofPod stored = .ok (front ++ b :: back) ∧ b.network = "ns1/net"
        ∧ s.store.Restates ⟨"ns1", "pod1"⟩ stored (front ++ back) s'.store
        ∧ s'.store.get ⟨"ns1", "pod1"⟩ = .ok new ∧ new.interfaces = ["eth0", "net1"] := by
  let listed (network interface : String) : Attachment :=
    ⟨network, interface, [], "", false, .empty, ∅⟩
  let status := Attachment.renderList
    [listed "cluster" "eth0", listed "ns1/net" "net1", listed "ns1/net" "eth1"]
  let pod : Pod := ⟨"ns1", "pod1", "u1", 1,
    ((∅ : Dict String).insert networksKey "net@net1").insert statusKey status,
    [⟨"c", "docker://abc"⟩]⟩
  let net : Selection := ⟨"net", "ns1", none, [], none, [], none⟩
  let request : Request := ⟨pod.key, .remove, [net], ""⟩
  let store := (PodStore.empty.apply pod).2
  let answer := PodStore.respond (fun key => .ok ⟨key.space, key.name, "\x7b\x7d"⟩) fun _ => ⟨none⟩
  let program := (reconcile 5 request).run
  have taken := Run.nil
    |>.snoc (Trial.step (.apply (s := start 5 1) pod))
    |>.snoc (.step (.enqueue request))
    |>.snoc (.step (.move (rfl : Controller.turn _ 0 0 = .moves _ _)))
    |>.snoc (.step (.move (rfl : Controller.turn _ 0 0 = .moves _ _)))
    |>.snoc (.step (.move (rfl : Controller.turn _ 0 0 = .moves _ _)))
    |>.snoc (.step (.move (rfl : Controller.turn _ 0 0 = .moves _ _)))
  obtain ⟨new, written, key, left⟩ : ∃ new ∈ writes (program.exchanges answer store),
      new.key = request.pod ∧ new.interfaces = ["eth0", "net1"] := by
    decide +kernel
  obtain ⟨_, mem⟩ := Exchange.mem_writes.1 written
  obtain ⟨steps, s, s', run, step⟩ := act_of_course Trial.step (t := ⟨0, request⟩) (i := 0)
    (Program.course_run (PodStore.answers_respond _ _) program store) mem taken rfl
  have trial := Trial.step step
  have read : s'.store.get request.pod = .ok new := key ▸ PodStore.get_of_update step.answers
  obtain ⟨-, -, -, same | ⟨stored, network, _, front, b, back, -, selected, status, own, -,
    restates, -⟩, -⟩ := only_what_was_detached_is_dropped run trial rfl
  · exact absurd (same ▸ rfl) (PodStore.get_ne_of_update step.answers)
  · obtain rfl : network = net := List.mem_singleton.1 selected
    exact ⟨_, s, s', _, stored, _, b, front, back, run, trial, rfl, status, own, restates, read, left⟩

end Site

end NetAttach
