-- SUMMARY: The requests that a change of a pod leads to are exactly the differences of its selections.
import NetAttach.Proofs.Removal

/-!
# Changes of a pod

The watch compares the selections of a pod before and after a change. Both lists are
read from annotations, may name a network without its namespace, and may repeat a key.
What is asked for is told apart by keys alone: a selection whose key is in both lists
is left as it is, even if it differs in its addresses.
-/

namespace NetAttach

namespace Program

variable {Q : Type} {Answer : Q → Type} {α β σ : Type}

theorem exchanges_bind (answer : (q : Q) → σ → Answer q × σ) (p : Program Answer β)
    (k : β → Program Answer α) (s : σ) : (p.bind k).exchanges answer s
      = p.exchanges answer s ++ (k (p.run answer s).1).exchanges answer (p.run answer s).2 := by
  induction p generalizing s with
  | done b => rfl
  | act q next ih => exact congrArg (_ :: ·) (ih _ _)

end Program

/-! ## Keys -/

namespace Selection

/-- The keys of some selections. -/
def keys (ss : List Selection) : List SelectionKey := ss.map key

theorem notIn_eq_filter (wanted known : List Selection) :
    notIn wanted known = wanted.filter fun x => x.key ∉ keys known := by
  refine List.filter_congr fun x _ => ?_
  rw [decide_not, List.contains_eq_mem]
  rfl

theorem notIn_self (xs : List Selection) : notIn xs xs = [] := by
  rw [notIn_eq_filter]
  exact List.filter_eq_nil_iff.2 fun x mem => by simpa [keys] using ⟨x, mem, rfl⟩

variable {before after : List Selection} {k : SelectionKey}

theorem mem_keys_notIn : k ∈ keys (notIn after before) ↔ k ∈ keys after ∧ k ∉ keys before := by
  simp only [keys, List.mem_map, mem_notIn]
  constructor
  · rintro ⟨x, ⟨mem, new⟩, rfl⟩
    exact ⟨⟨x, mem, rfl⟩, by simpa using new⟩
  · rintro ⟨⟨x, mem, rfl⟩, new⟩
    exact ⟨x, ⟨mem, by simpa using new⟩, rfl⟩

/-- To take away what is gone and to put in what is new turns the keys into those wanted. -/
theorem mem_keys_iff : k ∈ keys after ↔
    (k ∈ keys before ∧ k ∉ keys (notIn before after)) ∨ k ∈ keys (notIn after before) := by
  rw [mem_keys_notIn, mem_keys_notIn]
  by_cases wanted : k ∈ keys after <;> by_cases known : k ∈ keys before <;> simp [wanted, known]

end Selection

/-! ## Requests of a change -/

open Exchange (requests)
open Selection (keys notIn)

section

variable {σ : Type} (answer : (q : Action) → σ → q.Answer × σ) (s : σ)
  {old new : Pod} {before after : List Selection}

/-- The request for some networks, if there are any. -/
def Request.ifAny (pod : ObjectKey) (direction : Direction) (networks : List Selection)
    (netns : String) : List Request :=
  if networks = [] then [] else [⟨pod, direction, networks, netns⟩]

theorem requests_requestChange (pod : ObjectKey) (direction : Direction)
    (networks : List Selection) (netns : String) :
    requests ((requestChange pod direction networks netns).exchanges answer s)
      = Request.ifAny pod direction networks netns := by
  unfold requestChange
  cases networks <;> rfl

theorem requests_podNetns (pod : Pod) : requests ((podNetns pod).exchanges answer s) = [] := by
  unfold podNetns
  cases pod.containerId? <;> rfl

/-- The runtime is asked for the first container of a pod, if there is one. -/
theorem run_podNetns (pod : Pod) : ((podNetns pod).run answer s).1 =
    match pod.containerId? with
    | some id => (answer (.getNetns id) s).1
    | none => .ok "" := by
  unfold podNetns
  cases pod.containerId? <;> rfl

theorem requests_append (es es' : List Exchange) : requests (es ++ es') = requests es ++ requests es' :=
  List.filterMap_append

/-- What is requested once both annotations are read. -/
theorem requests_handleUpdate (changed : old.annotations ≠ new.annotations)
    (readable : Selection.ofPod old = .ok before) (selected : Selection.ofPod new = .ok after) :
    requests ((handleUpdate old new).exchanges answer s) =
      match ((podNetns new).run answer s).1 with
      | .ok netns => Request.ifAny new.key .add (notIn after before) netns
          ++ Request.ifAny new.key .remove (notIn before after) netns
      | .error _ => [] := by
  unfold handleUpdate
  rw [if_neg changed, readable, selected]
  dsimp only
  split
  · next nothing =>
    obtain ⟨added, removed⟩ : notIn after before = [] ∧ notIn before after = [] := by
      simpa using nothing
    rw [added, removed]
    split <;> rfl
  · refine (congrArg requests (Program.exchanges_bind ..)).trans ?_
    rw [requests_append, requests_podNetns, List.nil_append]
    cases ((podNetns new).run answer s).1 with
    | error cause => rfl
    | ok netns =>
      refine (congrArg requests (Program.exchanges_bind ..)).trans ?_
      rw [requests_append, requests_requestChange, requests_requestChange]

/-- A change is passed over if it leaves the annotations alone or one of them is unreadable. -/
theorem requests_handleUpdate_of_unreadable
    (unread : old.annotations = new.annotations ∨ (Selection.ofPod old).isOk = false
      ∨ (Selection.ofPod new).isOk = false) :
    requests ((handleUpdate old new).exchanges answer s) = [] := by
  unfold handleUpdate
  split
  · rfl
  · next changed =>
    cases readable : Selection.ofPod old with
    | error cause => rfl
    | ok before =>
      cases selected : Selection.ofPod new with
      | error cause => rfl
      | ok after =>
        rw [readable, selected] at unread
        obtain same | ⟨⟨⟩⟩ | ⟨⟨⟩⟩ := unread
        exact absurd same changed

/-- Where something is requested, the annotations differ and both are readable. -/
theorem requests_handleUpdate_cases : requests ((handleUpdate old new).exchanges answer s) = []
    ∨ ∃ before after, old.annotations ≠ new.annotations
      ∧ Selection.ofPod old = .ok before ∧ Selection.ofPod new = .ok after := by
  by_cases same : old.annotations = new.annotations
  · exact .inl (requests_handleUpdate_of_unreadable answer s (.inl same))
  · cases readable : Selection.ofPod old with
    | error cause =>
      exact .inl (requests_handleUpdate_of_unreadable answer s (.inr (.inl (by rw [readable]; rfl))))
    | ok before =>
      cases selected : Selection.ofPod new with
      | error cause =>
        exact .inl (requests_handleUpdate_of_unreadable answer s (.inr (.inr (by rw [selected]; rfl))))
      | ok after => exact .inr ⟨before, after, same, rfl, rfl⟩

/-- Nothing is requested while the network namespace of the pod is unknown. -/
theorem requests_handleUpdate_of_unknown {id : String} {cause : Fault}
    (container : new.containerId? = some id) (unknown : (answer (.getNetns id) s).1 = .error cause) :
    requests ((handleUpdate old new).exchanges answer s) = [] := by
  obtain nothing | ⟨before, after, changed, readable, selected⟩ := requests_handleUpdate_cases answer s
  · exact nothing
  · rw [requests_handleUpdate answer s changed readable selected, run_podNetns, container]
    dsimp only
    rw [unknown]

/-- Let a pod change in its annotations, both networks annotations be readable, and the runtime know
the network namespace of the first container of the pod, if it has one. Then the watch requests the
selections whose keys are new to be attached, and after that those whose keys are gone to be
detached, in their order, each as often as it is listed, and with no request that is empty. Without
the keys that are gone and with those that are new, the keys of before are the keys of after; no key
is both new and gone, and no selection whose key stays is in a request. In all other cases nothing is
requested. -/
theorem changes_are_requested_exactly (old new : Pod) :
    (∀ before after netns, old.annotations ≠ new.annotations →
      Selection.ofPod old = .ok before → Selection.ofPod new = .ok after →
      (∀ id, new.containerId? = some id → (answer (.getNetns id) s).1 = .ok netns) →
      (new.containerId? = none → netns = "") →
      let added := after.filter fun x => x.key ∉ keys before
      let removed := before.filter fun x => x.key ∉ keys after
      requests ((handleUpdate old new).exchanges answer s)
          = (if added = [] then [] else [⟨new.key, .add, added, netns⟩])
            ++ (if removed = [] then [] else [⟨new.key, .remove, removed, netns⟩])
        ∧ (∀ k, k ∈ keys after ↔ (k ∈ keys before ∧ k ∉ keys removed) ∨ k ∈ keys added)
        ∧ (∀ k ∈ keys added, k ∉ keys removed)
        ∧ ∀ x : Selection, x.key ∈ keys before → x.key ∈ keys after → x ∉ added ∧ x ∉ removed)
    ∧ ((old.annotations = new.annotations ∨ (Selection.ofPod old).isOk = false
        ∨ (Selection.ofPod new).isOk = false
        ∨ ∃ id cause, new.containerId? = some id ∧ (answer (.getNetns id) s).1 = .error cause) →
      requests ((handleUpdate old new).exchanges answer s) = []) := by
  refine ⟨fun before after netns changed readable selected found absent => ?_, fun passed => ?_⟩
  · have known : ((podNetns new).run answer s).1 = .ok netns := by
      rw [run_podNetns]
      cases container : new.containerId? with
      | some id => exact found id container
      | none => rw [absent container]
    rw [← Selection.notIn_eq_filter, ← Selection.notIn_eq_filter]
    refine ⟨?_, fun k => Selection.mem_keys_iff, fun k isNew isGone => ?_, fun x stays stays' => ⟨?_, ?_⟩⟩
    · rw [requests_handleUpdate answer s changed readable selected, known]
      rfl
    · exact (Selection.mem_keys_notIn.1 isGone).2 (Selection.mem_keys_notIn.1 isNew).1
    · exact fun mem => (Selection.mem_notIn.1 mem).2 stays
    · exact fun mem => (Selection.mem_notIn.1 mem).2 stays'
  · obtain same | bad | bad | ⟨id, cause, container, unknown⟩ := passed
    · exact requests_handleUpdate_of_unreadable answer s (.inl same)
    · exact requests_handleUpdate_of_unreadable answer s (.inr (.inl bad))
    · exact requests_handleUpdate_of_unreadable answer s (.inr (.inr bad))
    · exact requests_handleUpdate_of_unknown answer s container unknown

/-- A pod that is to have some networks. -/
private def podSelecting (networks : String) : Pod :=
  ⟨"ns1", "pod1", "u1", 1, (∅ : Dict String).insert networksKey networks, [⟨"c", "docker://abc"⟩]⟩

/-- Copies of a selection are requested together. An empty name of an interface is no name, so that
the selections of `net` without one stay although there are fewer of them. -/
theorem copies_are_requested_together :
    let unnamed : Selection := ⟨"net", "ns1", none, [], none, [], none⟩
    let named : Selection := { unnamed with interfaceRequest := some "eth1" }
    let empty : Selection := { unnamed with interfaceRequest := some "" }
    let other : Selection := ⟨"other", "ns2", none, [], none, [], none⟩
    let old := podSelecting "net@eth1,net,net"
    let new := podSelecting
      "[\x7b\"name\":\"net\",\"interface\":\"\"\x7d,\x7b\"name\":\"other\",\"namespace\":\"ns2\"\x7d,
        \x7b\"name\":\"other\",\"namespace\":\"ns2\"\x7d]"
    let answer := PodStore.respond (fun key => .error (.notFound .definition key)) fun _ => ⟨none⟩
    Selection.ofPod old = .ok [named, unnamed, unnamed]
      ∧ Selection.ofPod new = .ok [empty, other, other]
      ∧ requests ((handleUpdate old new).exchanges answer .empty)
        = [⟨⟨"ns1", "pod1"⟩, .add, [other, other], ""⟩, ⟨⟨"ns1", "pod1"⟩, .remove, [named], ""⟩] := by
  intro unnamed named empty other old new answer
  have readable : Selection.ofPod old = .ok [named, unnamed, unnamed] :=
    mem_toOption.1 (by decide +kernel)
  have selected : Selection.ofPod new = .ok [empty, other, other] :=
    mem_toOption.1 (by decide +kernel)
  have changed : old.annotations ≠ new.annotations := by decide +kernel
  refine ⟨readable, selected, ?_⟩
  exact ((changes_are_requested_exactly answer .empty old new).1 _ _ "" changed readable selected
    (fun _ _ => rfl) nofun).1

end

end NetAttach
