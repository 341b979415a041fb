-- SUMMARY: How far the pod cache mirrors what the watch of a cluster tells, over all lists and changes.
import NetAttach.Cluster.Watch
import Mathlib.Data.List.Induction

/-!
# The mirror of a cluster

After a lost connection the watch lists all pods anew. A pod that was deleted in the
meantime is told by its absence from the list alone, and the cache does not take note
of where a list begins and ends. So the cache mirrors the cluster except for pods that
have *lapsed*: they were known when a list began, and nothing has been told of them
since. A lapsed pod is kept, and the next pod of its name is announced as a change of
it.
-/

namespace NetAttach

/-! ## Since -/

/-- At some point of a list something was the case, told what was before it, and all that comes
since is as it should be. -/
def Since {ε : Type} (P : List ε → ε → Prop) (Q : ε → Prop) (es : List ε) : Prop :=
  ∃ front e back, es = front ++ e :: back ∧ P front e ∧ ∀ x ∈ back, Q x

section

variable {ε : Type} {P : List ε → ε → Prop} {Q : ε → Prop} {es : List ε} {e : ε}

theorem not_since_nil : ¬Since P Q [] := by
  rintro ⟨front, e, back, same, -⟩
  simp at same

theorem since_snoc : Since P Q (es ++ [e]) ↔ P es e ∨ (Q e ∧ Since P Q es) := by
  constructor
  · rintro ⟨front, x, back, same, here, later⟩
    obtain rfl | ⟨back, last, rfl⟩ := back.eq_nil_or_concat
    · obtain ⟨rfl, ⟨⟩⟩ := List.append_inj' same rfl
      exact .inl here
    · rw [List.concat_eq_append] at same later
      obtain ⟨rfl, ⟨⟩⟩ := List.append_inj' (same.trans (List.append_assoc front (x :: back) [last]).symm) rfl
      exact .inr ⟨later _ (by simp), front, x, back, rfl, here, fun y hy => later y (by simp [hy])⟩
  · rintro (here | ⟨last, front, x, back, rfl, here, later⟩)
    · exact ⟨es, e, [], rfl, here, nofun⟩
    · refine ⟨front, x, back ++ [e], by simp, here, fun y hy => ?_⟩
      obtain hy | hy := List.mem_append.1 hy
      · exact later y hy
      · exact List.mem_singleton.1 hy ▸ last

end

/-! ## Announcing -/

theorem Feed.send_injective {f : Feed} (room : f.capacity ≠ 0) {u v : PodUpdate}
    (same : f.send u = f.send v) : u = v := by
  obtain ⟨n, capacity⟩ := Nat.exists_eq_succ_of_ne_zero room
  have kept := congrArg Feed.kept same
  simp only [send, capacity, List.take_succ_cons, List.cons.injEq] at kept
  exact kept.1

theorem Feed.ne_send (f : Feed) (u : PodUpdate) : f ≠ f.send u := fun same =>
  Nat.ne_of_lt (Nat.lt_succ_self f.sent) (congrArg Feed.sent same)

/-- The update that a cache announces when it learns of a pod. -/
def PodCache.announced? (c : PodCache) (pod : Pod) : Option PodUpdate :=
  (c.pods.get? pod.key).bind fun old => if old.version = pod.version then none else some ⟨old, pod⟩

theorem PodCache.announced?_eq_some {c : PodCache} {pod : Pod} {u : PodUpdate} :
    c.announced? pod = some u ↔
      pod = u.new ∧ c.pods.get? u.new.key = some u.old ∧ u.old.version ≠ u.new.version := by
  unfold announced?
  constructor
  · intro h
    obtain ⟨old, known, differs⟩ := Option.bind_eq_some_iff.1 h
    split at differs
    · cases differs
    · next other =>
      cases differs
      exact ⟨rfl, known, other⟩
  · rintro ⟨rfl, known, other⟩
    rw [known, Option.bind_some, if_neg other]

theorem PodCache.feed_observe (c : PodCache) (pod : Pod) :
    (c.observe pod).feed = (c.announced? pod).elim c.feed c.feed.send := by
  unfold observe announced?
  cases c.pods.get? pod.key with
  | none => rfl
  | some old =>
    dsimp only [Option.bind_some]
    split <;> rfl

theorem PodCache.pods_observe (c : PodCache) (pod : Pod) :
    (c.observe pod).pods = c.pods.put pod.key pod := by
  unfold observe
  cases c.pods.get? pod.key with
  | none => rfl
  | some old =>
    dsimp only
    split <;> rfl

namespace Cluster

/-! ## Reports -/

/-- The pod whose present state is told, by a list or by a change. -/
def WatchEvent.observed? : WatchEvent → Option Pod
  | .listed object | .applied object => object.pod.toOption
  | _ => none

/-- The name of the pod that is told to be gone. -/
def WatchEvent.gone? : WatchEvent → Option ObjectKey
  | .deleted object => some object.key
  | _ => none

/-- Something is told of the pod of a name: its state, or that it is gone. -/
def WatchEvent.Concerns (e : WatchEvent) (key : ObjectKey) : Prop :=
  (∃ pod, e.observed? = some pod ∧ pod.key = key) ∨ e.gone? = some key

/-- What is known of the pods, by a watch that follows one report. -/
def tell (known : Keyed ObjectKey Pod) : WatchEvent → Keyed ObjectKey Pod
  | .listing => .empty
  | .listed object | .applied object =>
    match object.pod with
    | .ok pod => known.put pod.key pod
    | .error _ => known
  | .deleted object => known.erase object.key
  | .synced | .failed => known

/-- What the watch has told of the cluster: the pods of its last list, with all changes since. -/
def told (es : List WatchEvent) : Keyed ObjectKey Pod := es.foldl tell .empty

/-- The cache after some reports. -/
def cacheAfter (es : List WatchEvent) : PodCache := (followAll .empty es).1

/-- A pod was the last to be observed under its name, and was not told to be gone since. -/
def Known (es : List WatchEvent) (pod : Pod) : Prop :=
  Since (fun _ e => e.observed? = some pod) (fun e => ¬e.Concerns pod.key) es

/-- A pod was known when a list began, and nothing has been told of it since. -/
def Lapsed (es : List WatchEvent) (key : ObjectKey) : Prop :=
  Since (fun before e => e = .listing ∧ ∃ pod, pod.key = key ∧ Known before pod)
    (fun e => ¬e.Concerns key) es

/-- A report makes the cache announce an update. -/
def Announces (es : List WatchEvent) (e : WatchEvent) (u : PodUpdate) : Prop :=
  (cacheAfter (es ++ [e])).feed = (cacheAfter es).feed.send u

/-- Unless a list has begun since a pod was observed, no other pod is told under its name before it
is told to be gone. -/
def InTouch (es : List WatchEvent) (e : WatchEvent) : Prop :=
  ∀ old new : Pod, Since (fun _ x => x.observed? = some old)
      (fun x => ¬x.Concerns old.key ∧ x ≠ .listing) es →
    e.observed? = some new → new.key = old.key → new.uid = old.uid

variable {es : List WatchEvent} {e : WatchEvent} {key : ObjectKey} {pod : Pod} {u : PodUpdate}

theorem followAll_snoc (cache : PodCache) (es : List WatchEvent) (e : WatchEvent) :
    (followAll cache (es ++ [e])).1 = (follow (followAll cache es).1 e).1 := by
  induction es generalizing cache with
  | nil => rfl
  | cons first es ih => exact ih _

theorem cacheAfter_snoc (es : List WatchEvent) (e : WatchEvent) :
    cacheAfter (es ++ [e]) = (follow (cacheAfter es) e).1 :=
  followAll_snoc _ es e

theorem told_snoc (es : List WatchEvent) (e : WatchEvent) : told (es ++ [e]) = tell (told es) e := by
  simp [told]

/-! ## One report and one pod -/

/-- A report tells the state of the pod of a name, or that it is gone, or nothing of it. -/
theorem concerns_cases (e : WatchEvent) (key : ObjectKey) :
    (∃ pod, e.observed? = some pod ∧ pod.key = key) ∨ e.gone? = some key ∨ ¬e.Concerns key := by
  by_cases h : e.Concerns key
  · obtain observed | gone := h
    · exact .inl observed
    · exact .inr (.inl gone)
  · exact .inr (.inr h)

/-- What a map says of a name after it has followed a report in the way the cache and the watch do. -/
structure Follows (m m' : Keyed ObjectKey Pod) (e : WatchEvent) : Prop where
  observed : ∀ pod, e.observed? = some pod → m'.get? pod.key = some pod
  gone : ∀ key, e.gone? = some key → m'.get? key = none
  other : ∀ key, ¬e.Concerns key → m'.get? key = m.get? key

theorem follows_observe {object : PodObject} (pods : Keyed ObjectKey Pod)
    (observes : e.observed? = object.pod.toOption) (stays : e.gone? = none) :
    Follows pods (match object.pod with
      | .ok pod => pods.put pod.key pod
      | .error _ => pods) e := by
  refine ⟨fun pod seen => ?_, fun key gone => ?_, fun key aside => ?_⟩
  · rw [observes] at seen
    cases read : object.pod with
    | ok pod' =>
      rw [read] at seen
      cases seen
      exact Keyed.get?_put_self ..
    | error cause =>
      rw [read] at seen
      cases seen
  · rw [stays] at gone
    cases gone
  · cases read : object.pod with
    | ok pod' =>
      have other : key ≠ pod'.key := fun same =>
        aside (.inl ⟨pod', by rw [observes, read]; rfl, same.symm⟩)
      exact (Keyed.get?_put ..).trans (if_neg other)
    | error cause => rfl

theorem follows_erase (pods : Keyed ObjectKey Pod) (object : PodObject) :
    Follows pods (pods.erase object.key) (.deleted object) := by
  refine ⟨nofun, fun key gone => ?_, fun key aside => ?_⟩
  · cases gone
    exact (Keyed.get?_erase ..).trans (if_pos rfl)
  · have other : key ≠ object.key := fun same => aside (.inr (by rw [same]; rfl))
    exact (Keyed.get?_erase ..).trans (if_neg other)

theorem follows_cache (cache : PodCache) (e : WatchEvent) :
    Follows cache.pods (follow cache e).1.pods e := by
  have observed (object : PodObject) : (observe cache object).1.pods = match object.pod with
      | .ok pod => cache.pods.put pod.key pod
      | .error _ => cache.pods := by
    unfold observe
    cases object.pod with
    | ok pod => exact cache.pods_observe pod
    | error cause => rfl
  cases e with
  | listed object =>
    show Follows cache.pods (observe cache object).1.pods _
    rw [observed]
    exact follows_observe _ rfl rfl
  | applied object =>
    show Follows cache.pods (observe cache object).1.pods _
    rw [observed]
    exact follows_observe _ rfl rfl
  | deleted object => exact follows_erase _ object
  | listing | synced | failed => exact ⟨nofun, nofun, fun _ _ => rfl⟩

theorem follows_tell (known : Keyed ObjectKey Pod) (list : e ≠ .listing) :
    Follows known (tell known e) e := by
  cases e with
  | listing => exact absurd rfl list
  | listed object | applied object => exact follows_observe _ rfl rfl
  | deleted object => exact follows_erase _ object
  | synced | failed => exact ⟨nofun, nofun, fun _ _ => rfl⟩

/-! ## What the cache holds -/

/-- The cache holds the pods that were observed and not told to be gone, whatever lists there were. -/
theorem get?_cacheAfter : (cacheAfter es).pods.get? key = some pod ↔ pod.key = key ∧ Known es pod := by
  induction es using List.reverseRecOn with
  | nil =>
    refine iff_of_false nofun ?_
    rintro ⟨-, known⟩
    exact not_since_nil known
  | append_singleton es e ih =>
    have step := follows_cache (cacheAfter es) e
    rw [← cacheAfter_snoc] at step
    unfold Known
    rw [since_snoc]
    obtain ⟨pod', seen, rfl⟩ | gone | aside := concerns_cases e key
    · rw [step.observed pod' seen, seen]
      constructor
      · rintro ⟨⟩
        exact ⟨rfl, .inl rfl⟩
      · rintro ⟨same, here | ⟨aside, -⟩⟩
        · exact here
        · exact absurd (.inl ⟨pod', seen, same.symm⟩) aside
    · rw [step.gone key gone]
      refine iff_of_false nofun ?_
      rintro ⟨rfl, seen | ⟨aside, -⟩⟩
      · cases e <;> first | cases gone | cases seen
      · exact aside (.inr gone)
    · rw [step.other key aside, ih]
      constructor
      · rintro ⟨rfl, known⟩
        exact ⟨rfl, .inr ⟨aside, known⟩⟩
      · rintro ⟨rfl, seen | ⟨-, known⟩⟩
        · exact absurd (.inl ⟨pod, seen, rfl⟩) aside
        · exact ⟨rfl, known⟩

/-- The cache agrees with the watch on a name, or keeps a pod that has lapsed. -/
theorem cache_cases (es : List WatchEvent) (key : ObjectKey) :
    (¬Lapsed es key ∧ (cacheAfter es).pods.get? key = (told es).get? key)
    ∨ (Lapsed es key ∧ (told es).get? key = none ∧ ∃ pod, (cacheAfter es).pods.get? key = some pod) := by
  induction es using List.reverseRecOn with
  | nil => exact .inl ⟨not_since_nil, rfl⟩
  | append_singleton es e ih =>
    have step := follows_cache (cacheAfter es) e
    rw [← cacheAfter_snoc] at step
    have lapsed : Lapsed (es ++ [e]) key ↔ (e = .listing ∧ ∃ pod, pod.key = key ∧ Known es pod)
        ∨ (¬e.Concerns key ∧ Lapsed es key) := since_snoc
    by_cases list : e = .listing
    · -- the watch begins from nothing, the cache goes on with what it has
      have aside : ¬e.Concerns key := by
        rw [list]
        rintro (⟨pod, ⟨⟩, -⟩ | ⟨⟨⟩⟩)
      have nothing : (told (es ++ [e])).get? key = none := by
        rw [told_snoc, list]
        rfl
      rw [lapsed, step.other key aside, nothing]
      cases held : (cacheAfter es).pods.get? key with
      | some pod => exact .inr ⟨.inl ⟨list, pod, get?_cacheAfter.1 held⟩, rfl, pod, rfl⟩
      | none =>
        refine .inl ⟨?_, rfl⟩
        rintro (⟨-, pod, known⟩ | ⟨-, earlier⟩)
        · rw [get?_cacheAfter.2 known] at held
          cases held
        · obtain ⟨not, -⟩ | ⟨-, -, pod, some⟩ := ih
          · exact not earlier
          · rw [some] at held
            cases held
    · have told' := follows_tell (told es) list
      rw [← told_snoc] at told'
      obtain ⟨pod, seen, rfl⟩ | gone | aside := concerns_cases e key
      · refine .inl ⟨?_, (step.observed pod seen).trans (told'.observed pod seen).symm⟩
        rw [lapsed]
        rintro (⟨began, -⟩ | ⟨aside, -⟩)
        · exact list began
        · exact aside (.inl ⟨pod, seen, rfl⟩)
      · refine .inl ⟨?_, (step.gone key gone).trans (told'.gone key gone).symm⟩
        rw [lapsed]
        rintro (⟨began, -⟩ | ⟨aside, -⟩)
        · exact list began
        · exact aside (.inr gone)
      · have same : Lapsed (es ++ [e]) key ↔ Lapsed es key := by
          rw [lapsed]
          simp [list, aside]
        rw [same, step.other key aside, told'.other key aside]
        exact ih

/-! ## What the cache announces -/

theorem feed_follow (cache : PodCache) (e : WatchEvent) :
    (follow cache e).1.feed
      = (e.observed?.bind cache.announced?).elim cache.feed cache.feed.send := by
  have observed (object : PodObject) : (observe cache object).1.feed
      = (object.pod.toOption.bind cache.announced?).elim cache.feed cache.feed.send := by
    unfold observe
    cases object.pod with
    | ok pod => exact cache.feed_observe pod
    | error cause => rfl
  cases e with
  | listed object | applied object => exact observed object
  | _ => rfl

theorem capacity_cacheAfter (es : List WatchEvent) :
    (cacheAfter es).feed.capacity = PodCache.feedCapacity := by
  induction es using List.reverseRecOn with
  | nil => rfl
  | append_singleton es e ih =>
    rw [cacheAfter_snoc, feed_follow]
    cases e.observed?.bind (cacheAfter es).announced? <;> exact ih

/-- An update is announced for a pod that is known, when another version of it is observed. -/
theorem announces_iff : Announces es e u ↔ e.observed? = some u.new ∧ Known es u.old
    ∧ u.old.key = u.new.key ∧ u.old.version ≠ u.new.version := by
  have room : (cacheAfter es).feed.capacity ≠ 0 := by
    rw [capacity_cacheAfter]
    decide
  have announced : Announces es e u ↔ e.observed?.bind (cacheAfter es).announced? = some u := by
    unfold Announces
    rw [cacheAfter_snoc, feed_follow]
    cases e.observed?.bind (cacheAfter es).announced? with
    | none => exact iff_of_false (Feed.ne_send _ u) nofun
    | some v => exact ⟨fun same => congrArg some (Feed.send_injective room same), by rintro ⟨⟩; rfl⟩
  rw [announced, Option.bind_eq_some_iff]
  constructor
  · rintro ⟨pod, seen, differs⟩
    obtain ⟨rfl, held, other⟩ := PodCache.announced?_eq_some.1 differs
    obtain ⟨same, known⟩ := get?_cacheAfter.1 held
    exact ⟨seen, known, same, other⟩
  · rintro ⟨seen, known, same, other⟩
    exact ⟨u.new, seen, PodCache.announced?_eq_some.2 ⟨rfl, get?_cacheAfter.2 ⟨same, known⟩, other⟩⟩

/-- A list has begun since a pod was observed, or it has not lapsed. -/
theorem Known.since (known : Known es pod) :
    Since (fun _ x => x.observed? = some pod) (fun x => ¬x.Concerns pod.key ∧ x ≠ .listing) es
      ∨ Lapsed es pod.key := by
  induction es using List.reverseRecOn with
  | nil => exact absurd known not_since_nil
  | append_singleton es e ih =>
    unfold Lapsed
    rw [since_snoc, since_snoc]
    obtain seen | ⟨aside, known⟩ := since_snoc.1 known
    · exact .inl (.inl seen)
    · by_cases list : e = .listing
      · exact .inr (.inl ⟨list, pod, rfl, known⟩)
      · obtain unbroken | lapsed := ih known
        · exact .inl (.inr ⟨⟨aside, list⟩, unbroken⟩)
        · exact .inr (.inr ⟨aside, lapsed⟩)

/-! ## The result -/

/-- After any reports the cache says of a name what the watch has told, which is what its last list
and the changes since say, exactly if the pod of this name has not lapsed. If it has, the cache
holds it although the watch has told that it is gone. A report announces an update exactly if
it shows another version of a pod that is known. An update of a pod to another pod of its name
is announced for lapsed pods only, unless the watch itself tells of it without telling in between
that the first one is gone. -/
theorem cache_mirrors_all_but_the_lapsed (es : List WatchEvent) :
    (∀ key, (cacheAfter es).pods.get? key = (told es).get? key ↔ ¬Lapsed es key)
    ∧ (∀ key, Lapsed es key →
        (told es).get? key = none ∧ ∃ pod, (cacheAfter es).pods.get? key = some pod)
    ∧ (∀ e u, Announces es e u ↔ e.observed? = some u.new ∧ Known es u.old
        ∧ u.old.key = u.new.key ∧ u.old.version ≠ u.new.version)
    ∧ (∀ e u, InTouch es e → Announces es e u → u.old.uid ≠ u.new.uid → Lapsed es u.new.key) := by
  refine ⟨fun key => ?_, fun key lapsed => ?_, fun e u => announces_iff,
    fun e u inTouch announces other => ?_⟩
  · obtain ⟨not, same⟩ | ⟨lapsed, gone, pod, held⟩ := cache_cases es key
    · exact iff_of_true same not
    · refine iff_of_false (fun same => ?_) (fun not => not lapsed)
      rw [held, gone] at same
      cases same
  · obtain ⟨not, -⟩ | ⟨-, stale⟩ := cache_cases es key
    · exact absurd lapsed not
    · exact stale
  · obtain ⟨seen, known, same, -⟩ := announces_iff.1 announces
    obtain unbroken | lapsed := known.since
    · exact absurd (inTouch _ _ unbroken seen same.symm).symm other
    · exact same ▸ lapsed

/-- An object of the pod `ns1/pod1` as the server writes it. -/
private def objectOfPod (uid version : String) : PodObject :=
  ⟨some "ns1", some "pod1", none, some uid, some version, none, [], .null⟩

/-- The pod that this object stands for. -/
private def podWithUid (uid : String) (version : Nat) : Pod := ⟨"ns1", "pod1", uid, version, ∅, []⟩

/-- Whether a pod lapses shows in the list after a lost connection: if it is listed, its change in the
meantime is announced, and if it is not, it is kept for the next pod of its name. -/
theorem pod_lapses_unless_listed_again :
    let connected : List WatchEvent := [.listing, .listed (objectOfPod "u1" "5"), .synced, .failed, .listing]
    let again := WatchEvent.listed (objectOfPod "u1" "9")
    let replaced := WatchEvent.applied (objectOfPod "u2" "9")
    Announces connected again ⟨podWithUid "u1" 5, podWithUid "u1" 9⟩
      ∧ ¬Lapsed (connected ++ [again, .synced]) ⟨"ns1", "pod1"⟩
      ∧ InTouch (connected ++ [.synced]) replaced
      ∧ Announces (connected ++ [.synced]) replaced ⟨podWithUid "u1" 5, podWithUid "u2" 9⟩
      ∧ Lapsed (connected ++ [.synced]) ⟨"ns1", "pod1"⟩ := by
  intro connected again replaced
  have held : (cacheAfter connected).pods.get? ⟨"ns1", "pod1"⟩ = some (podWithUid "u1" 5) := by
    decide +kernel
  have kept : (cacheAfter (connected ++ [.synced])).pods.get? ⟨"ns1", "pod1"⟩
      = some (podWithUid "u1" 5) := by
    decide +kernel
  have inTouch : InTouch (connected ++ [.synced]) replaced := by
    intro old new since
    -- a list has begun since anything was observed
    obtain seen | ⟨-, since⟩ := since_snoc.1 since
    · cases seen
    · obtain seen | ⟨⟨-, list⟩, -⟩ :=
        since_snoc.1 (show Since _ _ (connected.dropLast ++ [.listing]) from since)
      · cases seen
      · exact absurd rfl list
  obtain ⟨-, -, announces, -⟩ := cache_mirrors_all_but_the_lapsed connected
  obtain ⟨mirrored, -, -, -⟩ := cache_mirrors_all_but_the_lapsed (connected ++ [again, .synced])
  obtain ⟨-, -, announces', lapses⟩ := cache_mirrors_all_but_the_lapsed (connected ++ [.synced])
  have other := (announces' replaced ⟨podWithUid "u1" 5, podWithUid "u2" 9⟩).2
    ⟨by decide +kernel, (get?_cacheAfter.1 kept).2, rfl, by decide⟩
  exact ⟨(announces again _).2 ⟨by decide +kernel, (get?_cacheAfter.1 held).2, rfl, by decide⟩,
    (mirrored _).1 (by decide +kernel), inTouch, other, lapses _ _ inTouch other (by decide)⟩

/-- A pod that was deleted while the watch was not connected is still in the cache after the list
that does not show it, and the pod that is created under its name is announced as a change of it. -/
theorem vanished_pod_is_kept :
    ∃ (es : List WatchEvent) (e : WatchEvent) (u : PodUpdate),
      es = [.listing, .listed (objectOfPod "u1" "5"), .synced, .failed, .listing, .synced]
        ∧ e = .applied (objectOfPod "u2" "9")
        ∧ told es = .empty ∧ (cacheAfter es).pods.get? u.old.key = some u.old
        ∧ Announces es e u ∧ u.old.uid = "u1" ∧ u.new.uid = "u2" := by
  refine ⟨_, _, ⟨podWithUid "u1" 5, podWithUid "u2" 9⟩, rfl, rfl, rfl, ?_, ?_, rfl, rfl⟩
  · decide +kernel
  · unfold Announces
    decide +kernel

end Cluster

end NetAttach
