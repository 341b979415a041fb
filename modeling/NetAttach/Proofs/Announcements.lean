-- SUMMARY: What a cache announces of a pod leads from the first object that it observed to the last one.
import NetAttach.Proofs.Mirror
import NetAttach.Proofs.Changes
import NetAttach.Proofs.History
import Mathlib.Data.Finset.SDiff

/-!
# Announcements of a cache

A cache may observe any pods in any order, the same object more than once, and may learn
that a pod is gone and observe another one of its name later. From one time that a pod is
gone to the next, the updates that are announced of it follow each other without a gap. So
whoever attaches what is new in each update and detaches what is gone comes from the
selections of the first object to those of the last.
-/

namespace NetAttach

/-! ## Updates in a row -/

/-- Updates that lead from one object to another: each begins with the object that the one before it
ends with. -/
inductive Leads (first : Pod) : List PodUpdate → Pod → Prop where
  | start : Leads first [] first
  | next {us : List PodUpdate} (u : PodUpdate) (before : Leads first us u.old) :
    Leads first (us ++ [u]) u.new

namespace Selection

/-- The keys that a pod selects, if its networks annotation is readable. -/
def keysOf (pod : Pod) : Finset SelectionKey :=
  match ofPod pod with
  | .ok ss => (keys ss).toFinset
  | .error _ => ∅

/-- The keys after an update: those that it takes away are gone, and those that it brings are there. -/
def revise (ks : Finset SelectionKey) (u : PodUpdate) : Finset SelectionKey :=
  match ofPod u.old, ofPod u.new with
  | .ok before, .ok after =>
    ks \ (keys (notIn before after)).toFinset ∪ (keys (notIn after before)).toFinset
  | _, _ => ks

/-- The networks annotation of a pod can be read. -/
def Readable (pod : Pod) : Prop := (ofPod pod).isOk = true

instance (pod : Pod) : Decidable (Readable pod) := inferInstanceAs (Decidable (_ = true))

theorem revise_keysOf {u : PodUpdate} (old : Readable u.old) (new : Readable u.new) :
    revise (keysOf u.old) u = keysOf u.new := by
  unfold Readable at old new
  unfold revise keysOf
  cases read : ofPod u.old with
  | error cause => rw [read] at old; cases old
  | ok before =>
    cases read' : ofPod u.new with
    | error cause => rw [read'] at new; cases new
    | ok after =>
      ext k
      simp only [Finset.mem_union, Finset.mem_sdiff, List.mem_toFinset]
      exact mem_keys_iff.symm

/-- The differences of updates in a row add up to the difference of the first and the last object. -/
theorem foldl_revise {first last : Pod} {us : List PodUpdate} (leads : Leads first us last)
    (readable : ∀ u ∈ us, Readable u.old ∧ Readable u.new) :
    us.foldl revise (keysOf first) = keysOf last := by
  induction leads with
  | start => rfl
  | next u before ih =>
    obtain ⟨old, new⟩ := readable u (by simp)
    rw [List.foldl_concat, ih fun v mem => readable v (List.mem_append_left _ mem),
      revise_keysOf old new]

end Selection

/-! ## Calls to a cache -/

namespace PodCache

/-- A call to a cache. -/
inductive Call where
  | observe (pod : Pod)
  | remove (key : ObjectKey)

/-- The cache after a call. -/
def after (c : PodCache) : Call → PodCache
  | .observe pod => c.observe pod
  | .remove key => c.remove key

/-- The cache after some calls. -/
def afterAll (c : PodCache) (calls : List Call) : PodCache := calls.foldl after c

/-- The update that a call makes the cache announce. -/
def announces? (c : PodCache) : Call → Option PodUpdate
  | .observe pod => c.announced? pod
  | .remove _ => none

/-- All updates that some calls make the cache announce. -/
def announcements (c : PodCache) : List Call → List PodUpdate
  | [] => []
  | x :: xs => (c.announces? x).toList ++ (c.after x).announcements xs

/-- The objects of one name that are observed in some calls. -/
def observed (key : ObjectKey) (calls : List Call) : List Pod :=
  calls.filterMap fun
    | .observe pod => if pod.key = key then some pod else none
    | .remove _ => none

variable {c : PodCache} {calls : List Call} {key : ObjectKey}

theorem afterAll_concat (c : PodCache) (calls : List Call) (x : Call) :
    c.afterAll (calls ++ [x]) = (c.afterAll calls).after x :=
  List.foldl_concat ..

theorem announcements_append (c : PodCache) (calls more : List Call) :
    c.announcements (calls ++ more)
      = c.announcements calls ++ (c.afterAll calls).announcements more := by
  induction calls generalizing c with
  | nil => rfl
  | cons x xs ih => rw [List.cons_append, announcements, announcements, ih, List.append_assoc]; rfl

theorem feed_after (c : PodCache) (x : Call) :
    (c.after x).feed = (c.announces? x).elim c.feed c.feed.send := by
  cases x with
  | observe pod => exact c.feed_observe pod
  | remove key => rfl

/-- What is announced is what subscribers find in the feed. -/
theorem announced_afterAll (calls : List Call) :
    (empty.afterAll calls).feed.Announced (empty.announcements calls) := by
  induction calls using List.reverseRecOn with
  | nil => exact Feed.announced_ofCapacity _
  | append_singleton calls x ih =>
    rw [afterAll_concat, feed_after, announcements_append]
    cases told : (empty.afterAll calls).announces? x with
    | none => simpa [announcements, told] using ih
    | some u => simpa [announcements, told] using ih.send u

/-- Other names have no part in what the cache holds under one. -/
theorem get?_afterAll (unknown : c.pods.get? key = none) (stays : .remove key ∉ calls) :
    (c.afterAll calls).pods.get? key = (observed key calls).getLast? := by
  induction calls using List.reverseRecOn with
  | nil => exact unknown
  | append_singleton calls x ih =>
    have ih := ih fun mem => stays (List.mem_append_left _ mem)
    rw [afterAll_concat]
    unfold observed at ih ⊢
    cases x with
    | observe pod =>
      change ((c.afterAll calls).observe pod).pods.get? key = _
      rw [pods_observe, Keyed.get?_put, List.filterMap_append]
      by_cases here : pod.key = key
      · simp [here]
      · simp [here, Ne.symm here, ih]
    | remove other =>
      have apart : key ≠ other := by
        rintro rfl
        exact stays (by simp)
      change ((c.afterAll calls).pods.erase other).get? key = _
      rw [Keyed.get?_erase, if_neg apart, ih, List.filterMap_append]
      simp

/-- A pod is announced with the object of its name that was observed before it, if their versions
differ. -/
theorem announces?_observe (unknown : c.pods.get? key = none) (stays : .remove key ∉ calls) {pod : Pod}
    (here : pod.key = key) : (c.afterAll calls).announces? (.observe pod)
      = (observed key calls).getLast?.bind fun old =>
        if old.version = pod.version then none else some ⟨old, pod⟩ := by
  rw [← get?_afterAll unknown stays, ← here]
  rfl

/-- All updates of one name that some calls make the cache announce. -/
def told (c : PodCache) (key : ObjectKey) (calls : List Call) : List PodUpdate :=
  (c.announcements calls).filter (·.new.key = key)

theorem told_concat (c : PodCache) (key : ObjectKey) (calls : List Call) (x : Call) :
    c.told key (calls ++ [x]) = c.told key calls
      ++ ((c.afterAll calls).announces? x).toList.filter (·.new.key = key) := by
  unfold told
  rw [announcements_append, List.filter_append]
  simp [announcements]

/-- A call that does not observe a pod of a name announces nothing of it. -/
theorem told_aside {x : Call} (aside : ∀ pod, x = .observe pod → pod.key ≠ key) :
    c.told key (calls ++ [x]) = c.told key calls := by
  rw [told_concat]
  cases told : (c.afterAll calls).announces? x with
  | none => simp
  | some u =>
    cases x with
    | remove other => cases told
    | observe pod =>
      obtain ⟨rfl, -⟩ := announced?_eq_some.1 told
      simp [aside _ rfl]

theorem observed_concat (key : ObjectKey) (calls : List Call) (x : Call) :
    observed key (calls ++ [x]) = observed key calls ++ observed key [x] :=
  List.filterMap_append

/-- Updates lead from the first object that is observed to the last one, by way of others. -/
structure Telescopes (us : List PodUpdate) (seen : List Pod) (first last : Pod) : Prop where
  begins : seen.head? = some first
  ends : seen.getLast? = some last
  leads : Leads first us last
  differ : ∀ u ∈ us, u.old.version ≠ u.new.version
  within : ∀ u ∈ us, u.old ∈ seen ∧ u.new ∈ seen

namespace Telescopes

variable {us : List PodUpdate} {seen : List Pod} {first last : Pod}

/-- The last object is observed once more. -/
theorem again (h : Telescopes us seen first last) : Telescopes us (seen ++ [last]) first last where
  begins := by rw [List.head?_append, h.begins]; rfl
  ends := List.getLast?_concat
  leads := h.leads
  differ := h.differ
  within u mem := (h.within u mem).imp (List.mem_append_left _) (List.mem_append_left _)

/-- Another object is observed, and its update is announced. -/
theorem extend (h : Telescopes us seen first last) {pod : Pod} (other : last.version ≠ pod.version) :
    Telescopes (us ++ [⟨last, pod⟩]) (seen ++ [pod]) first pod where
  begins := by rw [List.head?_append, h.begins]; rfl
  ends := List.getLast?_concat
  leads := h.leads.next ⟨last, pod⟩
  differ u mem := by
    obtain mem | mem := List.mem_append.1 mem
    · exact h.differ u mem
    · exact List.mem_singleton.1 mem ▸ other
  within u mem := by
    obtain mem | mem := List.mem_append.1 mem
    · exact (h.within u mem).imp (List.mem_append_left _) (List.mem_append_left _)
    · rw [List.mem_singleton.1 mem]
      exact ⟨List.mem_append_left _ (List.mem_of_getLast? h.ends), by simp⟩

end Telescopes

theorem telescopes (unknown : c.pods.get? key = none) (stays : .remove key ∉ calls)
    (same : ∀ p ∈ observed key calls, ∀ q ∈ observed key calls, p.version = q.version → p = q) :
    (observed key calls = [] ∧ c.told key calls = [])
      ∨ ∃ first last, Telescopes (c.told key calls) (observed key calls) first last := by
  induction calls using List.reverseRecOn with
  | nil => exact .inl ⟨rfl, rfl⟩
  | append_singleton calls x ih =>
    rw [observed_concat] at same ⊢
    have kept : .remove key ∉ calls := fun mem => stays (List.mem_append_left _ mem)
    have ih := ih kept fun p hp q hq =>
      same p (List.mem_append_left _ hp) q (List.mem_append_left _ hq)
    by_cases here : ∃ pod, x = .observe pod ∧ pod.key = key
    · obtain ⟨pod, rfl, here⟩ := here
      have one : observed key [.observe pod] = [pod] := by simp [observed, here]
      rw [one] at same ⊢
      rw [told_concat, announces?_observe unknown kept here]
      refine .inr ?_
      obtain ⟨nothing, told⟩ | ⟨first, last, ih⟩ := ih
      · rw [nothing, told]
        exact ⟨pod, pod, rfl, rfl, .start, nofun, nofun⟩
      · rw [ih.ends, Option.bind_some]
        by_cases again : last.version = pod.version
        · have known : last ∈ observed key calls := List.mem_of_getLast? ih.ends
          obtain rfl := same last (List.mem_append_left _ known) pod (by simp) again
          rw [if_pos again]
          exact ⟨first, last, by simpa using ih.again⟩
        · rw [if_neg again]
          exact ⟨first, pod, by simpa [here] using ih.extend again⟩
    · have aside : ∀ pod, x = .observe pod → pod.key ≠ key := fun pod is same => here ⟨pod, is, same⟩
      have nothing : observed key [x] = [] := by
        cases x with
        | observe pod => simp [observed, aside pod rfl]
        | remove other => rfl
      rw [told_aside aside, nothing, List.append_nil]
      exact ih

/-- A cache knows nothing of a name at first and after it was told that the pod is gone. -/
theorem unknown_of_gone {past : List Call}
    (gone : past = [] ∨ ∃ before, past = before ++ [.remove key]) :
    (empty.afterAll past).pods.get? key = none := by
  obtain rfl | ⟨before, rfl⟩ := gone
  · rfl
  · rw [afterAll_concat]
    exact (Keyed.get?_erase ..).trans (if_pos rfl)

/-- Take any calls from the start, or from one time that a pod is told to be gone, to the next such time,
and let objects of its name with one version be the same object. The updates of the name that
are announced in these calls lead from the first object of it that is observed to the last one,
and the versions of each differ. The first observation announces nothing, nor does one of the version
that is known; any other announces the update from the object before. If the networks annotations
of all these objects are readable, the differences of the updates turn the keys that the first
object selects into those of the last one. Subscribers find these updates in the feed. -/
theorem announcements_lead_from_first_to_last (past during : List Call) (key : ObjectKey)
    (gone : past = [] ∨ ∃ before, past = before ++ [.remove key]) (stays : .remove key ∉ during)
    (same : ∀ p ∈ observed key during, ∀ q ∈ observed key during, p.version = q.version → p = q) :
    let c := empty.afterAll past
    let seen := observed key during
    let us := (c.announcements during).filter (·.new.key = key)
    (seen = [] → us = [])
    ∧ (∀ first last, seen.head? = some first → seen.getLast? = some last →
        Leads first us last
        ∧ ((∀ pod ∈ seen, Selection.Readable pod) →
            us.foldl Selection.revise (Selection.keysOf first) = Selection.keysOf last))
    ∧ (∀ u ∈ us, u.old.version ≠ u.new.version)
    ∧ (∀ before pod later, during = before ++ .observe pod :: later → pod.key = key →
        (c.afterAll before).announces? (.observe pod) = match (observed key before).getLast? with
          | none => none
          | some known => if known.version = pod.version then none else some ⟨known, pod⟩)
    ∧ (empty.afterAll (past ++ during)).feed.Announced
        (empty.announcements past ++ c.announcements during) := by
  intro c seen us
  have unknown := unknown_of_gone gone
  have feed : (empty.afterAll (past ++ during)).feed.Announced
      (empty.announcements past ++ c.announcements during) :=
    announcements_append empty past during ▸ announced_afterAll (past ++ during)
  have single : ∀ before pod later, during = before ++ .observe pod :: later → pod.key = key →
      (c.afterAll before).announces? (.observe pod) = match (observed key before).getLast? with
        | none => none
        | some known => if known.version = pod.version then none else some ⟨known, pod⟩ := by
    rintro before pod later rfl here
    have kept : .remove key ∉ before := fun mem => stays (List.mem_append_left _ mem)
    rw [announces?_observe unknown kept here]
    cases (observed key before).getLast? <;> rfl
  obtain ⟨nothing, silent⟩ | ⟨first, last, chain⟩ := telescopes unknown stays same
  · refine ⟨fun _ => silent, fun first last begins _ => ?_, fun u mem => ?_, single, feed⟩
    · rw [show seen = [] from nothing] at begins
      cases begins
    · rw [show us = [] from silent] at mem
      cases mem
  · refine ⟨fun nothing => ?_, fun first' last' begins ends => ?_, chain.differ, single, feed⟩
    · have begins := chain.begins
      rw [show observed key during = [] from nothing] at begins
      cases begins
    · obtain rfl := Option.some.inj (chain.begins.symm.trans begins)
      obtain rfl := Option.some.inj (chain.ends.symm.trans ends)
      refine ⟨chain.leads, fun readable => Selection.foldl_revise chain.leads fun u mem => ?_⟩
      exact (chain.within u mem).imp (readable _) (readable _)

/-- A pod of the namespace `ns1` in a version, with the networks that it is to have. -/
private def podListing (name : String) (version : Nat) (networks : String) : Pod :=
  ⟨"ns1", name, "u1", version, (∅ : Dict String).insert networksKey networks, []⟩

/-- After the pod was gone, the first object of the next one of its name is no change of the old one. It is
listed once more, another pod is observed in between, and one version is passed over; the two
updates that are announced turn `net` into `net` with a name and `other`. -/
theorem updates_after_a_return_add_up :
    let a (version : Nat) (networks : String) := podListing "a" version networks
    let past : List Call := [.observe (a 3 "old"), .remove ⟨"ns1", "a"⟩]
    let during : List Call := [.observe (a 5 "net"), .observe (podListing "b" 6 "net"),
      .observe (a 5 "net"), .observe (a 7 "net,other"), .observe (podListing "b" 8 ""),
      .observe (a 9 "other,net@eth1")]
    let c := empty.afterAll past
    let us := (c.announcements during).filter (·.new.key = ⟨"ns1", "a"⟩)
    us = [⟨a 5 "net", a 7 "net,other"⟩, ⟨a 7 "net,other", a 9 "other,net@eth1"⟩]
      ∧ Leads (a 5 "net") us (a 9 "other,net@eth1")
      ∧ us.foldl Selection.revise (Selection.keysOf (a 5 "net"))
        = Selection.keysOf (a 9 "other,net@eth1") := by
  intro a past during c us
  have seen : observed ⟨"ns1", "a"⟩ during
      = [a 5 "net", a 5 "net", a 7 "net,other", a 9 "other,net@eth1"] := by
    decide +kernel
  obtain ⟨-, leads, -⟩ := announcements_lead_from_first_to_last past during ⟨"ns1", "a"⟩
    (.inr ⟨[.observe (a 3 "old")], rfl⟩) (by simp [during]) (by rw [seen]; decide +kernel)
  obtain ⟨chain, keys⟩ := leads _ _ (by rw [seen]; rfl) (by rw [seen]; rfl)
  exact ⟨by decide +kernel, chain, keys (by rw [seen]; decide +kernel)⟩

end PodCache

end NetAttach
