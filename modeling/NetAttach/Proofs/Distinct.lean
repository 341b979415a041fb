-- SUMMARY: The interfaces that the status of a pod lists stay distinct, whatever is attached and detached.
import NetAttach.Proofs.Trials

/-!
# Distinct interfaces

No two attachments of a pod have the same interface, as far as it is known. An
attachment is recorded only if its interface is known and new, and to drop one does no
harm. Because a write replaces the pod whose status was looked at, this is true of what
is stored, as long as others who write the pod keep to it.
-/

namespace NetAttach

open Exchange (writes held?)

/-! ## Lists of attachments -/

namespace Attachment

/-- Interfaces are distinct, unless they are unknown, and all numbers in the fields of others read
back as they are written. -/
structure Orderly (recorded : List Attachment) : Prop where
  distinct : recorded.Pairwise fun a b => a.interface = b.interface → a.interface = ""
  exact : ∀ a ∈ recorded, ∀ m ∈ a.extra.entries, m.2.Leaves Json.Exact

/-- An attachment is recorded anew only if its interface is known and not recorded yet. -/
def Fresh (recorded updated : List Attachment) : Prop :=
  ∀ a, updated = recorded ++ [a] → a.interface ≠ "" ∧ ∀ b ∈ recorded, b.interface ≠ a.interface

variable {recorded updated front back : List Attachment} {a b : Attachment}

theorem fresh_append (named : a.interface ≠ "") (new : ∀ b ∈ recorded, b.interface ≠ a.interface) :
    Fresh recorded (recorded ++ [a]) := by
  intro a' same
  obtain rfl : a = a' := by simpa using same
  exact ⟨named, new⟩

/-- To drop an attachment is not to record one. -/
theorem fresh_drop : Fresh (front ++ b :: back) (front ++ back) := by
  intro a same
  have length := congrArg List.length same
  simp at length
  omega

theorem Orderly.sublist (h : Orderly recorded) (sub : updated.Sublist recorded) : Orderly updated :=
  ⟨h.distinct.sublist sub, fun a mem => h.exact a (sub.subset mem)⟩

theorem Orderly.append (h : Orderly recorded) (new : ∀ b ∈ recorded, b.interface ≠ a.interface)
    (exact : ∀ m ∈ a.extra.entries, m.2.Leaves Json.Exact) : Orderly (recorded ++ [a]) := by
  refine ⟨List.pairwise_append.2 ⟨h.distinct, List.pairwise_singleton _ _, ?_⟩, fun b mem => ?_⟩
  · intro b mem _ last same
    rw [List.mem_singleton.1 last] at same
    exact absurd same (new b mem)
  · obtain mem | last := List.mem_append.1 mem
    · exact h.exact b mem
    · rw [List.mem_singleton.1 last]
      exact exact

/-- What a request makes of an orderly list is orderly. -/
theorem Orderly.alter {request : Request} (h : Orderly recorded)
    (alters : request.Alters recorded updated) (fresh : Fresh recorded updated) : Orderly updated := by
  cases alters with
  | append result => exact h.append (fresh _ rfl).2 nofun
  | drop => exact h.sublist ((List.sublist_cons_self _ _).append_left _)

end Attachment

/-! ## Stored pods -/

/-- The status of a pod is readable and orderly. -/
def Pod.Orderly (pod : Pod) : Prop :=
  ∃ recorded, Attachment.ofPod pod = .ok recorded ∧ Attachment.Orderly recorded

/-- The pod of a name is orderly, if there is one. -/
def PodStore.Orderly (key : ObjectKey) (s : PodStore) : Prop :=
  ∀ pod, s.get key = .ok pod → pod.Orderly

namespace Site

/-- One step of anyone, where others keep the pod of a name orderly. -/
def Tended (key : ObjectKey) (s : Site) (d : Option Deed) (s' : Site) : Prop :=
  Trial s d s' ∧ (d = none → s.store.Orderly key → s'.store.Orderly key)

variable {s s' : Site} {steps : List (Option Deed)} {retries workers : Nat} {d : Deed}
  {key : ObjectKey}

theorem Tended.of_same {d : Option Deed} (trial : Trial s d s') (same : s'.store = s.store) :
    Tended key s d s' := ⟨trial, fun _ orderly => same ▸ orderly⟩

/-- A deed leaves the store alone, or alters the status that is stored at that moment as its request
says. -/
theorem altered_of_trial (run : Run Trial (start retries workers) steps s) (trial : Trial s (some d) s') :
    s'.store = s.store ∨ ∃ pod recorded updated, Attachment.ofPod pod = .ok recorded
      ∧ d.ticket.request.Alters recorded updated ∧ Attachment.Fresh recorded updated
      ∧ s.store.Restates d.ticket.request.pod pod updated s'.store := by
  obtain ⟨es, -, warrants, issued, own⟩ := warranted_of_trial run trial
  obtain ⟨worker, t, action, answer⟩ := d
  have warrants : t.request.Warrants es action := warrants
  have idle : (∀ pod, action ≠ .updatePod pod) → s'.store = s.store :=
    PodStore.unchanged trial.answers
  cases warrants with
  | @record pod _ result recorded add selected holds status named new =>
    refine (trial.store_of_written (issued pod holds) rfl).imp_right fun restates => ?_
    have key : pod.key = t.request.pod := own _ rfl
    exact ⟨pod, recorded, _, status, .append result add selected, Attachment.fresh_append named new,
      key ▸ restates⟩
  | @drop pod _ _ _ _ _ remove detaching holds status network_eq =>
    refine (trial.store_of_written (issued pod holds) rfl).imp_right fun restates => ?_
    have key : pod.key = t.request.pod := own _ rfl
    obtain ⟨selected, own⟩ := detaching.selected
    exact ⟨pod, _, _, status, .drop remove selected (network_eq.trans own), Attachment.fresh_drop,
      key ▸ restates⟩
  | _ => exact .inl (idle nofun)

/-- A deed leaves a pod that is orderly as it is, or gives it a new status that is orderly too. -/
theorem revised_of_trial (run : Run Trial (start retries workers) steps s) (trial : Trial s (some d) s')
    (orderly : s.store.Orderly key) :
    s'.store.get key = s.store.get key ∨ key = d.ticket.request.pod
      ∧ ∃ old new recorded updated, s.store.get key = .ok old ∧ s'.store.get key = .ok new
        ∧ Attachment.ofPod old = .ok recorded ∧ Attachment.ofPod new = .ok updated
        ∧ Attachment.Orderly updated
        ∧ d.ticket.request.Alters recorded updated ∧ Attachment.Fresh recorded updated := by
  obtain same | ⟨old, recorded, updated, status, alters, fresh, stored, restated⟩ :=
    altered_of_trial run trial
  · exact .inl (same ▸ rfl)
  by_cases own : key = d.ticket.request.pod
  · have written := (restated key).trans (if_pos own)
    subst own
    obtain ⟨_, status', ordered⟩ := orderly old stored
    cases status.symm.trans status'
    exact .inr ⟨rfl, old, _, recorded, updated, stored, written, status,
      Attachment.ofPod_altered status ordered.exact alters, ordered.alter alters fresh, alters, fresh⟩
  · exact .inl ((restated key).trans (if_neg own))

theorem orderly_of_run (run : Run (Tended key) (start retries workers) steps s) :
    s.store.Orderly key := by
  induction run with
  | nil => exact fun pod stored => nomatch stored
  | @snoc s s' steps d run tended ih =>
    cases d with
    | none => exact tended.2 rfl ih
    | some d =>
      obtain same | ⟨-, _, new, _, updated, -, stored, -, status, ordered, -⟩ :=
        revised_of_trial (run.imp And.left) tended.1 ih
      · exact fun pod stored => ih pod (same ▸ stored)
      · intro pod stored'
        obtain rfl := Except.ok.inj (stored.symm.trans stored')
        exact ⟨updated, status, ordered⟩

/-- As long as others keep the status of a pod orderly, so do all deeds of the controller: they leave
the pod as it is, or give it a status that is orderly again. Such a status is the one that was stored
before with one attachment more at its end, whose interface is known and new, or with one less. -/
theorem status_stays_orderly (run : Run (Tended key) (start retries workers) steps s)
    (trial : Trial s (some d) s') :
    s.store.Orderly key ∧ s'.store.Orderly key
      ∧ (s'.store.get key = s.store.get key ∨ key = d.ticket.request.pod
        ∧ ∃ old new recorded updated, s.store.get key = .ok old ∧ s'.store.get key = .ok new
          ∧ Attachment.ofPod old = .ok recorded ∧ Attachment.ofPod new = .ok updated
          ∧ Attachment.Orderly updated
          ∧ d.ticket.request.Alters recorded updated ∧ Attachment.Fresh recorded updated) := by
  have before := orderly_of_run run
  exact ⟨before, orderly_of_run (run.snoc ⟨trial, nofun⟩),
    revised_of_trial (run.imp And.left) trial before⟩

/-- An interface is attached to a pod that has another one. -/
theorem second_interface_is_recorded :
    ∃ (steps : List (Option Deed)) (s s' : Site) (d : Deed) (old new : Pod)
      (recorded updated : List Attachment),
      Run (Tended ⟨"ns1", "pod1"⟩) (start 5 1) steps s ∧ Trial s (some d) s'
        ∧ s.store.get ⟨"ns1", "pod1"⟩ = .ok old ∧ Attachment.ofPod old = .ok recorded
        ∧ s'.store.get ⟨"ns1", "pod1"⟩ = .ok new ∧ Attachment.ofPod new = .ok updated
        ∧ Attachment.Orderly updated ∧ new.interfaces = ["eth0", "net1"] := by
  let eth0 : Attachment := ⟨"cluster", "eth0", [], "", true, .empty, ∅⟩
  let pod := Pod.withStatus ⟨"ns1", "pod1", "u1", 0, ∅, [⟨"c", "docker://abc"⟩]⟩ [eth0]
  let net : Selection := ⟨"net", "ns1", some "net1", [], none, [], none⟩
  let request : Request := ⟨pod.key, .add, [net], ""⟩
  let store := (PodStore.empty.apply pod).2
  let answer := PodStore.respond (fun key => .ok ⟨key.space, key.name, "\x7b\x7d"⟩)
    fun call => ⟨some ⟨"", [⟨call.interface, "", ""⟩], [], [], .empty⟩⟩
  let program := (reconcile 5 request).run
  have orderly : store.Orderly pod.key := by
    rintro _ ⟨⟩
    exact ⟨[eth0], Attachment.ofPod_withStatus (List.forall_mem_singleton.2 ⟨nofun, nofun, nofun⟩),
      List.pairwise_singleton _ _, List.forall_mem_singleton.2 nofun⟩
  have taken := Run.nil
    |>.snoc (show Tended pod.key (start 5 1) none _ from ⟨.step (.apply pod), fun _ _ => orderly⟩)
    |>.snoc (.of_same (.step (.enqueue request)) (by rfl))
    |>.snoc (.of_same (.step (.move (rfl : Controller.turn _ 0 0 = .moves _ _))) (by rfl))
    |>.snoc (.of_same (.step (.move (rfl : Controller.turn _ 0 0 = .moves _ _))) (by rfl))
    |>.snoc (.of_same (.step (.move (rfl : Controller.turn _ 0 0 = .moves _ _))) (by rfl))
    |>.snoc (.of_same (.step (.move (rfl : Controller.turn _ 0 0 = .moves _ _))) (by rfl))
  obtain ⟨new, written, key, listed⟩ : ∃ new ∈ writes (program.exchanges answer store),
      new.key = request.pod ∧ new.interfaces = ["eth0", "net1"] := by
    decide +kernel
  obtain ⟨_, mem⟩ := Exchange.mem_writes.1 written
  obtain ⟨steps, s, s', run, step⟩ := act_of_course (fun step => ⟨.step step, nofun⟩)
    (t := ⟨0, request⟩) (i := 0) (Program.course_run (PodStore.answers_respond _ _) program store)
    mem taken rfl
  have trial := Trial.step step
  have read : s'.store.get request.pod = .ok new := key ▸ PodStore.get_of_update step.answers
  obtain ⟨-, -, same | ⟨-, old, _, recorded, updated, stored, read', status, status', ordered, -⟩⟩ :=
    status_stays_orderly run trial
  · exact absurd (key ▸ same) (PodStore.get_ne_of_update step.answers)
  · obtain rfl := Except.ok.inj (read.symm.trans read')
    exact ⟨_, s, s', _, old, new, recorded, updated, run, trial, stored, status, read, status',
      ordered, listed⟩

end Site

end NetAttach
