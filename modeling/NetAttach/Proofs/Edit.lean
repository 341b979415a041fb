-- SUMMARY: After an edit of the networks annotation, which of the selections are attached in the end.
import NetAttach.Proofs.Solo
import NetAttach.Controller.Watch

/-!
# Edits of the networks annotation

When the networks annotation of a pod is edited, what is new is requested to be attached
before what is gone is requested to be detached. A single worker works off the two
requests in quiet surroundings, and tries to attach again as often as it may. In the end
every selection is attached exactly if it survives in the sense of `Attachment.Survives`,
which is not always so: what a new selection refers to when it is its turn to be attached
may be detached afterwards for a selection that is gone.
-/

namespace NetAttach

namespace Controller

/-! ## Requests of the watch -/

/-- How the watch is answered when it turns a change of a pod into requests: it always learns the
network namespace. -/
def Hears (c : Controller) (e : Exchange) (c' : Controller) : Prop :=
  match e with
  | ⟨.enqueue request, _⟩ => c' = c.enqueue request
  | ⟨.getNetns _, answer⟩ => (∃ path, answer = .ok path) ∧ c' = c
  | _ => c' = c

/-- A single worker that has nothing to do. -/
structure Resting (c : Controller) : Prop where
  worker : ∃ p, (p = .seeking ∨ p = .listed) ∧ c.workers = [p] ∧ c.queue.shared.Attended p
  locks : c.LocksSound
  standard : c.queue.limiter.IsStandard
  open_ : c.queue.shared.queue.closed = false
  empty : c.queue.shared.queue.waiting = [] ∧ c.queue.shared.queue.dirty = []
    ∧ c.queue.shared.queue.processing = []
  untried : ∀ t : Ticket, c.made ≤ t.number → c.queue.retries t = 0

theorem resting_ofWorkers (retries : Nat) : (ofWorkers retries 1).Resting :=
  ⟨⟨.seeking, .inl rfl, rfl, rfl⟩, locksSound_ofWorkers retries 1, ⟨_, _, rfl⟩, rfl,
    ⟨rfl, rfl, rfl⟩, fun _ _ => rfl⟩

variable {c : Controller} {old new : Pod} {before after : List Selection}

/-- What the watch requests when the selections of a pod change. -/
def requested (c : Controller) (pod : ObjectKey) (netns : String) (before after : List Selection) :
    Controller :=
  let added := Selection.notIn after before
  let removed := Selection.notIn before after
  let c := if added = [] then c else c.enqueue ⟨pod, .add, added, netns⟩
  if removed = [] then c else c.enqueue ⟨pod, .remove, removed, netns⟩

theorem requestChange_ensures {post : Unit → Controller → Prop} {pod : ObjectKey}
    {direction : Direction} {networks : List Selection} {netns : String}
    (h : post () (if networks = [] then c else c.enqueue ⟨pod, direction, networks, netns⟩)) :
    (requestChange pod direction networks netns).Ensures Hears post c := by
  unfold requestChange
  cases networks with
  | nil => exact h
  | cons s networks =>
    refine ⟨⟨(), _, rfl⟩, ?_⟩
    rintro r c' rfl
    exact h

/-- The watch requests what is new and what is gone, each if there is any of it. -/
theorem handleUpdate_ensures {post : Unit → Controller → Prop} (same : old.key = new.key)
    (hbefore : Selection.ofPod old = .ok before) (hafter : Selection.ofPod new = .ok after)
    (requests : ∀ netns, post () (c.requested new.key netns before after)) :
    (handleUpdate old new).Ensures Hears post c := by
  have nothing (added : Selection.notIn after before = [])
      (removed : Selection.notIn before after = []) : post () c := by
    simpa [requested, added, removed] using requests ""
  unfold handleUpdate
  by_cases unchanged : old.annotations = new.annotations
  · rw [if_pos unchanged]
    have space : old.space = new.space := congrArg ObjectKey.space same
    have selections : before = after := by
      unfold Selection.ofPod Pod.annotated? at hbefore hafter
      rw [unchanged, space, same, hafter] at hbefore
      cases hbefore
      rfl
    have none (l : List Selection) : Selection.notIn l l = [] :=
      List.eq_nil_iff_forall_not_mem.2 fun s hs =>
        (Selection.mem_notIn.1 hs).2 (List.mem_map_of_mem (Selection.mem_notIn.1 hs).1)
    exact nothing (selections ▸ none _) (selections ▸ none _)
  · rw [if_neg unchanged, hbefore, hafter]
    dsimp only
    split
    · next empty =>
      simp only [Bool.and_eq_true, List.isEmpty_iff] at empty
      exact nothing empty.1 empty.2
    · have goes (netns : String) : Program.Ensures Hears post (do
          requestChange new.key .add (Selection.notIn after before) netns
          requestChange new.key .remove (Selection.notIn before after) netns) c := by
        refine Program.Ensures.bind (m := fun _ c' => c' = if Selection.notIn after before = []
          then c else c.enqueue ⟨new.key, .add, Selection.notIn after before, netns⟩)
          (requestChange_ensures rfl) ?_
        rintro _ c' rfl
        exact requestChange_ensures (requests netns)
      unfold podNetns
      cases new.containerId? with
      | none => exact goes ""
      | some id =>
        refine ⟨⟨.ok "", c, ⟨"", rfl⟩, rfl⟩, ?_⟩
        rintro _ c' ⟨⟨netns, rfl⟩, rfl⟩
        exact goes netns

end Controller

namespace Solo

open Attachment Controller

variable {a r : Ticket} {k : Nat} {p : Phase} {line removal : List Ticket} {store : PodStore}
  {s : Solo} {c : Controller} {pod old new : Pod} {all networks before after : List Selection}
  {recorded : List Attachment}

/-! ## The requests in line -/

/-- A worker that has nothing to do stands before an empty line. -/
theorem stands_of_resting (h : c.Resting) (store : PodStore) (made : c.made ≤ a.number) :
    ∃ p, (p = .seeking ∨ p = .listed) ∧ Stands a 0 p [] store ⟨c, store, []⟩ := by
  obtain ⟨p, idle, workers, attended⟩ := h.worker
  obtain ⟨waiting, dirty, processing⟩ := h.empty
  have none : p.ticket? = none := by rcases idle with rfl | rfl <;> rfl
  refine ⟨p, idle, workers, h.locks, h.standard, h.untried a made, attended, ?_, rfl⟩
  rw [none]
  have held : c.queue.shared.queue.heldBack = [] := by rw [WorkQueue.heldBack, processing]; rfl
  refine ⟨h.open_, ?_, processing, by simp [waiting, held], by simp [held], .nil⟩
  constructor <;> simp [waiting, dirty, processing]

/-- A request that is made joins the line. -/
theorem Stands.enqueue (h : Stands a k p line store ⟨c, store, []⟩) (none : p.ticket? = none)
    (request : Request) (new : c.ticket request ∉ line) :
    Stands a k p (line ++ [c.ticket request]) store ⟨c.enqueue request, store, []⟩ := by
  refine ⟨h.workers, h.locks.step (.enqueue _ request), h.standard, h.tries,
    h.attended.add _, ?_, rfl⟩
  have line' := h.line
  rw [none] at line' ⊢
  show Line (c.queue.shared.add _).queue _ _ _ _
  rw [SharedQueue.queue_add]
  exact line'.add new

/-- The line of a request to detach networks, which is empty if there are none. -/
structure Removal (a : Ticket) (pod : ObjectKey) (networks : List Selection)
    (removal : List Ticket) : Prop where
  at_most : networks ≠ [] → ∃ r, removal = [r]
  nothing : networks = [] → removal = []
  request : ∀ r ∈ removal, a ≠ r ∧ r.request.pod = pod ∧ r.request.direction = .remove
    ∧ r.request.networks = networks

/-- What the watch requests stands in line, what is to be attached before what is to be
detached. -/
theorem stands_requested (h : c.Resting) (store : PodStore) (pod : ObjectKey) (netns : String)
    (before after : List Selection) :
    ∃ a p removal, (p = .seeking ∨ p = .listed)
      ∧ (a.request.pod = pod ∧ a.request.direction = .add
        ∧ a.request.networks = Selection.notIn after before)
      ∧ Removal a pod (Selection.notIn before after) removal
      ∧ Stands a 0 p ((if Selection.notIn after before = [] then [] else [a]) ++ removal) store
        ⟨c.requested pod netns before after, store, []⟩ := by
  let a := c.ticket ⟨pod, .add, Selection.notIn after before, netns⟩
  let c' := if Selection.notIn after before = [] then c
    else c.enqueue ⟨pod, .add, Selection.notIn after before, netns⟩
  let r := c'.ticket ⟨pod, .remove, Selection.notIn before after, netns⟩
  have other : a ≠ r := fun h => nomatch congrArg (·.request.direction) h
  obtain ⟨p, idle, start⟩ := stands_of_resting h store (Nat.le_refl a.number)
  have none : p.ticket? = none := by rcases idle with rfl | rfl <;> rfl
  have first : Stands a 0 p (if Selection.notIn after before = [] then [] else [a]) store
      ⟨c', store, []⟩ := by
    by_cases added : Selection.notIn after before = []
    · simp only [c', if_pos added]
      exact start
    · simp only [c', if_neg added]
      exact start.enqueue none _ nofun
  have unlisted : r ∉ if Selection.notIn after before = [] then [] else [a] := by
    split
    · exact nofun
    · simpa using other.symm
  refine ⟨a, p, if Selection.notIn before after = [] then [] else [r], idle, ⟨rfl, rfl, rfl⟩,
    ⟨fun some => ⟨r, if_neg some⟩, fun none => if_pos none, fun r' hr' => ?_⟩, ?_⟩
  · split at hr'
    · cases hr'
    · obtain rfl := List.mem_singleton.1 hr'
      exact ⟨other, rfl, rfl, rfl⟩
  · by_cases removed : Selection.notIn before after = []
    · rw [if_pos removed, List.append_nil]
      simpa only [requested, if_pos removed] using first
    · rw [if_neg removed]
      simpa only [requested, if_neg removed] using first.enqueue none _ unlisted

/-! ## Working off the requests -/

/-- Nothing happens any more. -/
def Idle (s : Solo) : Prop := ∀ s', ¬Step s s'

/-- The worker rests, and the pod is as it is stored in the end. -/
def Ends (key : ObjectKey) (all : List Selection) (P : List Attachment → Prop) (s : Solo) : Prop :=
  s.Idle ∧ ∃ pod final, pod.key = key ∧ s.store.Holds pod all final ∧ P final

theorem Stands.rests {P : List Attachment → Prop} (h : Stands a k p [] store s)
    (hp : p = .seeking ∨ p = .listed) (holds : store.Holds pod all recorded) (result : P recorded) :
    Inevitably Step (Ends pod.key all P) s := by
  refine h.gets hp (fun _ s' listed still => ?_) (fun _ _ _ h => by cases h)
  exact .now ⟨still, pod, recorded, rfl, listed.store ▸ holds, result⟩

/-- What is gone is detached. -/
theorem Stands.detaches {P : Solo → Prop} (h : Stands a k p (removal ++ line) store s)
    (hp : p = .seeking ∨ p = .listed) (holds : store.Holds pod all recorded)
    (removes : Removal a pod.key networks removal)
    (goes : ∀ p' s' store' pod', (p' = .seeking ∨ p' = .listed) → pod'.key = pod.key →
      store'.Holds pod' all (detachAll all recorded networks) →
      Stands a k p' line store' s' → Inevitably Step P s') : Inevitably Step P s := by
  by_cases none : networks = []
  · obtain rfl := removes.nothing none
    exact goes p s store pod hp rfl (by rw [none]; exact holds) h
  · obtain ⟨r, rfl⟩ := removes.at_most none
    obtain ⟨other, own, remove, rfl⟩ := removes.request r (by simp)
    refine h.gets hp (fun h => by cases h) fun t rest s' hline asking => ?_
    cases hline
    refine asking.delivers (fun retries => reconcile_remove_ensures holds retries own remove)
      fun result store' s'' post settling => ?_
    obtain ⟨rfl, pod', key, holds'⟩ := post
    refine settling.succeeds fun s₃ seeking => ?_
    rw [if_neg other] at seeking
    exact goes .seeking s₃ store' pod' (.inl rfl) key holds' seeking

/-- What is new is attached, or an interface is taken and the request is tried again later. -/
theorem Stands.attaches {P : Solo → Prop} (h : Stands a k p (a :: line) store s)
    (hp : p = .seeking ∨ p = .listed) (holds : store.Holds pod all recorded)
    (own : a.request.pod = pod.key) (add : a.request.direction = .add)
    (well : ∀ s' store' pod' updated, pod'.key = pod.key → store'.Holds pod' all updated →
      Attaching all recorded a.request.networks updated true →
      Stands a 0 .seeking line store' s' → Inevitably Step P s')
    (again : k ≤ maxRetries → ∀ s' store' pod' updated, pod'.key = pod.key →
      store'.Holds pod' all updated → Attaching all recorded a.request.networks updated false →
      Stands a (k + 1) .seeking (line ++ [a]) store' s' → Inevitably Step P s')
    (never : maxRetries < k → ∀ s' store' pod' updated, pod'.key = pod.key →
      store'.Holds pod' all updated → Attaching all recorded a.request.networks updated false →
      Stands a 0 .seeking line store' s' → Inevitably Step P s') : Inevitably Step P s := by
  have new : a ∉ line := (List.nodup_cons.1 h.line.nodup).1
  refine h.gets hp (fun h => by cases h) fun t rest s' hline asking => ?_
  cases hline
  refine asking.delivers (fun retries => reconcile_add_ensures holds retries own add)
    fun result store' s'' post settling => ?_
  obtain ⟨pod', updated, key, holds', attaching⟩ := post
  cases result with
  | ok _ =>
    refine settling.succeeds fun s₃ seeking => ?_
    rw [if_pos rfl] at seeking
    exact well s₃ store' pod' updated key holds' attaching seeking
  | error e =>
    by_cases few : k ≤ maxRetries
    · exact settling.fails few new fun s₃ seeking =>
        again few s₃ store' pod' updated key holds' attaching seeking
    · exact settling.gives (Nat.lt_of_not_le few) fun s₃ seeking =>
        never (Nat.lt_of_not_le few) s₃ store' pod' updated key holds' attaching seeking

/-- A request to attach that is tried again and again either succeeds, or an interface is taken
for good. -/
theorem Stands.persists {P : List Attachment → Prop} (h : Stands a k p [a] store s)
    (hp : p = .seeking ∨ p = .listed) (holds : store.Holds pod all recorded)
    (own : a.request.pod = pod.key) (add : a.request.direction = .add)
    (apart : Selection.Apart all) (selected : ∀ n ∈ a.request.networks, n ∈ all)
    (well : ∀ final, ¬Blocked all recorded a.request.networks →
      Attaching all recorded a.request.networks final true → P final)
    (stuck : ∀ final, Blocked all recorded a.request.networks →
      Blocked all final a.request.networks → P final) :
    Inevitably Step (Ends pod.key all P) s := by
  -- the number of tries that are left goes down
  induction hn : maxRetries + 1 - k using Nat.strongRecOn
    generalizing k p store s pod recorded with
  | ind n ih =>
    refine h.attaches hp holds own add ?_ ?_ ?_
    · intro s' store' pod' updated key holds' attaching seeking
      have free := mt (attaching.blocked apart selected).1.1 nofun
      exact key ▸ seeking.rests (.inl rfl) holds' (well updated free attaching)
    · intro few s' store' pod' updated key holds' attaching seeking
      obtain ⟨blocked, blocked'⟩ := attaching.blocked apart selected
      rw [← key]
      exact ih (maxRetries + 1 - (k + 1)) (by omega) seeking (.inl rfl) holds' (key ▸ own)
        (fun final free => absurd (blocked'.2 rfl) free)
        (fun final _ => stuck final (blocked.2 rfl)) rfl
    · intro many s' store' pod' updated key holds' attaching seeking
      obtain ⟨blocked, blocked'⟩ := attaching.blocked apart selected
      exact key ▸ seeking.rests (.inl rfl) holds' (stuck updated (blocked.2 rfl) (blocked'.2 rfl))

/-- Once the requests of an edit are worked off, every selection is attached exactly if it
survives. -/
theorem Stands.works_off (h : Stands a 0 p
      ((if Selection.notIn after before = [] then [] else [a]) ++ removal) store s)
    (hp : p = .seeking ∨ p = .listed) (holds : store.Holds pod after recorded)
    (own : a.request.pod = pod.key) (add : a.request.direction = .add)
    (adds : a.request.networks = Selection.notIn after before)
    (removes : Removal a pod.key (Selection.notIn before after) removal)
    (apart : Selection.Apart after) (attached : ∀ s ∈ before, Attached recorded s before) :
    Inevitably Step (Ends pod.key after fun final =>
      (∀ s ∈ after, Attached final s after) ↔ Survives before after recorded) s := by
  -- what is left once everything that is new was attached
  have finish {p : Phase} {s : Solo} {store : PodStore} {pod' : Pod} {updated : List Attachment}
      (hp : p = .seeking ∨ p = .listed) (key : pod'.key = pod.key)
      (holds' : store.Holds pod' after updated)
      (attaching : Attaching after recorded (Selection.notIn after before) updated true)
      (h : Stands a 0 p removal store s) : Inevitably Step (Ends pod.key after fun final =>
        (∀ s ∈ after, Attached final s after) ↔ Survives before after recorded) s := by
    rw [← List.append_nil removal] at h
    refine h.detaches hp holds' (key ▸ removes) fun p' s' store' pod'' idle key' holds'' rest => ?_
    rw [← key, ← key']
    exact rest.rests idle holds'' (survives_iff_of_attached apart attached attaching)
  by_cases none : Selection.notIn after before = []
  · rw [if_pos none] at h
    exact finish hp rfl holds (none ▸ .done recorded) h
  · rw [if_neg none] at h
    refine h.attaches hp holds own add ?_ ?_ fun many => nomatch many
    · intro s' store' pod' updated key holds' attaching seeking
      exact finish (.inl rfl) key holds' (adds ▸ attaching) seeking
    · intro _ s' store' pod' updated key holds' attaching seeking
      rw [adds] at attaching
      refine seeking.detaches (.inl rfl) holds' (key ▸ removes)
        fun p' s'' store'' pod'' idle key' holds'' waiting => ?_
      have selected : ∀ n ∈ a.request.networks, n ∈ after := adds ▸ mem_of_mem_added
      have same : pod''.key = pod.key := key'.trans key
      rw [← same]
      refine waiting.persists idle holds'' (own.trans same.symm) add apart selected ?_ ?_
      · intro final free success
        rw [adds] at free success
        exact survives_iff_of_blocked apart attaching fun left hleft =>
          .inl (hleft ▸ ⟨free, success⟩)
      · intro final blocked stuck
        rw [adds] at blocked stuck
        exact survives_iff_of_blocked apart attaching fun left hleft =>
          .inr (hleft ▸ ⟨blocked, stuck⟩)

/-- After an edit the worker comes to rest, and every selection is attached then exactly if it
survives. -/
theorem edit_ends (resting : c.Resting) (holds : store.Holds new after recorded)
    (same : old.key = new.key) (readable : Selection.ofPod old = .ok before)
    (attached : ∀ s ∈ before, Attached recorded s before) (apart : Selection.Apart after) :
    (handleUpdate old new).Ensures Hears (fun _ c' =>
      Inevitably Step (Ends new.key after fun final =>
        (∀ s ∈ after, Attached final s after) ↔ Survives before after recorded)
        ⟨c', store, []⟩) c := by
  refine handleUpdate_ensures same readable holds.selected fun netns => ?_
  obtain ⟨a, p, removal, idle, ⟨own, add, adds⟩, removes, stands⟩ :=
    stands_requested resting store new.key netns before after
  exact stands.works_off idle holds own add adds removes apart attached

/-! ## Selections after an edit -/

/-- The attachments that are recorded for a pod are as they should be. -/
def Records (store : PodStore) (key : ObjectKey) (P : List Attachment → Prop) : Prop :=
  ∃ pod recorded, store.get key = .ok pod ∧ Attachment.ofPod pod = .ok recorded ∧ P recorded

theorem Ends.records {P Q : List Attachment → Prop} {key : ObjectKey} (h : Ends key all P s)
    (weaken : ∀ final, P final → Q final) : s.Idle ∧ Records s.store key Q := by
  obtain ⟨idle, pod, final, rfl, holds, result⟩ := h
  exact ⟨idle, pod, final, holds.stored, holds.status, weaken final result⟩

/-- The networks annotation of a pod is edited, while every selection of before is attached and no
interface is asked for under two keys. The worker comes to rest whatever quiet surroundings
answer, and then every selection is attached exactly if it survives. Doubles in foreign fields of
the status are taken to read back as they are written. -/
theorem edit_attaches_what_survives (resting : c.Resting) (same : old.key = new.key)
    (stored : store.get new.key = .ok new) (readable : Selection.ofPod old = .ok before)
    (selected : Selection.ofPod new = .ok after) (status : Attachment.ofPod new = .ok recorded)
    (doubles : ∀ a ∈ recorded, ∀ m ∈ a.extra.entries, m.2.Leaves Json.Exact)
    (attached : ∀ s ∈ before, (find? recorded s before).isSome = true)
    (apart : Selection.Apart after) :
    (handleUpdate old new).Ensures Hears (fun _ c' =>
      Inevitably Step (fun s => s.Idle ∧ Records s.store new.key fun final =>
        (∀ s ∈ after, (find? final s after).isSome = true) ↔ Survives before after recorded)
        ⟨c', store, []⟩) c := by
  have holds : store.Holds new after recorded :=
    ⟨stored, selected, status, lasting_of_parseList status doubles⟩
  refine (edit_ends resting holds same readable (fun s hs => find?_isSome.1 (attached s hs))
    apart).imp fun _ c' ends => ends.imp fun s ends => ends.records fun final survives => ?_
  simpa only [find?_isSome] using survives

/-- An attachment to the network `net` under the name `eth1`. -/
private def attachedNet : Attachment := ⟨"ns1/net", "eth1", [], "", false, .empty, ∅⟩

/-- A pod with this attachment. -/
private def podWithNet (networks : String) : Pod :=
  ⟨"ns1", "pod1", "u1", 1,
    ((∅ : Dict String).insert networksKey networks).insert statusKey
      "[\x7b\"name\":\"ns1/net\",\"interface\":\"eth1\"\x7d]",
    [⟨"c", "docker://abc"⟩]⟩

private theorem status_podWithNet (networks : String) :
    Attachment.ofPod (podWithNet networks) = .ok [attachedNet] := by
  have status : (podWithNet networks).annotated? statusKey
      = some "[\x7b\"name\":\"ns1/net\",\"interface\":\"eth1\"\x7d]" := Dict.get?_insert_self _ _ _
  rw [Attachment.ofPod, status]
  exact mem_toOption.1 (by decide +kernel)

private theorem exact_attachedNet :
    ∀ a ∈ [attachedNet], ∀ m ∈ a.extra.entries, m.2.Leaves Json.Exact := by
  intro a ha m hm
  obtain rfl := List.mem_singleton.1 ha
  cases hm

/-- A network is selected once more, and attached besides the interface that was asked for. -/
theorem second_selection_is_attached :
    let named : Selection := ⟨"net", "ns1", some "eth1", [], none, [], none⟩
    let unnamed : Selection := ⟨"net", "ns1", none, [], none, [], none⟩
    (handleUpdate (podWithNet "net@eth1") (podWithNet "net@eth1,net")).Ensures Hears (fun _ c' =>
      Inevitably Step (fun s => s.Idle ∧ Records s.store ⟨"ns1", "pod1"⟩ fun final =>
        ∀ s ∈ [named, unnamed], (find? final s [named, unnamed]).isSome = true)
        ⟨c', (PodStore.empty.apply (podWithNet "net@eth1,net")).2, []⟩) (ofWorkers 5 1) := by
  intro named unnamed
  have same : (podWithNet "net@eth1").key = (podWithNet "net@eth1,net").key := rfl
  have before : Selection.ofPod (podWithNet "net@eth1") = .ok [named] :=
    mem_toOption.1 (by decide +kernel)
  have after : Selection.ofPod (podWithNet "net@eth1,net") = .ok [named, unnamed] :=
    mem_toOption.1 (by decide +kernel)
  refine (edit_attaches_what_survives (resting_ofWorkers 5) same rfl before after
    (status_podWithNet _) exact_attachedNet (by decide) (by decide)).imp
    fun _ c' ends => ends.imp fun s ends => ?_
  obtain ⟨idle, pod, final, stored, status, survives⟩ := ends
  exact ⟨idle, pod, final, stored, status, survives.2 (by decide)⟩

/-- A selection is lost when its interface is not asked for any more. It still refers to the
attachment when it is its turn to be attached, which is then detached for the selection that is
gone. -/
theorem selection_is_lost :
    let named : Selection := ⟨"net", "ns1", some "eth1", [], none, [], none⟩
    let unnamed : Selection := ⟨"net", "ns1", none, [], none, [], none⟩
    Selection.ofPod (podWithNet "net@eth1") = .ok [named]
      ∧ Selection.ofPod (podWithNet "net") = .ok [unnamed]
      ∧ Attachment.ofPod (podWithNet "net") = .ok [attachedNet]
      ∧ (∀ s ∈ [named], (find? [attachedNet] s [named]).isSome = true)
      ∧ unnamed.interface? = none
      ∧ (handleUpdate (podWithNet "net@eth1") (podWithNet "net")).Ensures Hears (fun _ c' =>
          Inevitably Step (fun s => s.Idle ∧ Records s.store ⟨"ns1", "pod1"⟩ fun final =>
            find? final unnamed [unnamed] = none)
            ⟨c', (PodStore.empty.apply (podWithNet "net")).2, []⟩) (ofWorkers 5 1) := by
  intro named unnamed
  have same : (podWithNet "net@eth1").key = (podWithNet "net").key := rfl
  have before : Selection.ofPod (podWithNet "net@eth1") = .ok [named] :=
    mem_toOption.1 (by decide +kernel)
  have after : Selection.ofPod (podWithNet "net") = .ok [unnamed] :=
    mem_toOption.1 (by decide +kernel)
  have holds : (PodStore.empty.apply (podWithNet "net")).2.Holds (podWithNet "net") [unnamed]
      [attachedNet] :=
    ⟨rfl, after, status_podWithNet _,
      lasting_of_parseList (status_podWithNet "net") exact_attachedNet⟩
  have lost : ¬Survives [named] [unnamed] [attachedNet] := by decide
  refine ⟨before, after, status_podWithNet _, by decide, rfl, ?_⟩
  refine (edit_ends (resting_ofWorkers 5) holds same before (by decide) (by decide)).imp
    fun _ c' ends => ends.imp fun s ends => ends.records fun final survives => ?_
  refine find?_eq_none.2 fun attached => lost (survives.1 fun s hs => ?_)
  obtain rfl := List.mem_singleton.1 hs
  exact attached

end Solo

end NetAttach
