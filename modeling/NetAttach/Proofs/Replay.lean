-- SUMMARY: When a request is delivered again, for which of its completed networks the plugin is called again.
import NetAttach.Proofs.Undisturbed

/-!
# Replayed requests

A request that failed is delivered again, from its first network on. That a network was
completed before is told from the status alone: it is passed over if its selection
refers to an attachment that is recorded, or to none if networks are detached. Whether
this is so after a network was completed depends on the name that the plugin reports,
and on what else is recorded for the network.
-/

namespace NetAttach

open Exchange (calls)

variable {request : Request} {network : Selection} {pod pod' : Pod} {es : List Exchange}
  {r : Except Fault Pod} {retries : Nat} {s s' : PodStore}

/-! ## What is settled stays settled -/

/-- What a request does to its pod: no selection changes, and what is settled stays so. -/
structure Request.Onward (request : Request) (pod pod' : Pod) : Prop where
  key : pod'.key = pod.key
  selections : pod'.selections = pod.selections
  settled : ∀ network, request.Settled network pod → request.Settled network pod'

theorem Request.Onward.refl (pod : Pod) : request.Onward pod pod := ⟨rfl, rfl, fun _ h => h⟩

theorem Request.Onward.trans {pod'' : Pod} (first : request.Onward pod pod')
    (second : request.Onward pod' pod'') : request.Onward pod pod'' :=
  ⟨second.key.trans first.key, second.selections.trans first.selections,
    fun network h => second.settled network (first.settled network h)⟩

theorem Visited.onward (h : Visited request network pod es r pod') (lasting : pod.Lasting) :
    request.Onward pod pod' := by
  cases h with
  | failed => exact .refl pod
  | passed => exact .refl pod
  | attached add status absent =>
    refine ⟨rfl, Pod.selections_withStatus, fun n settled => ?_⟩
    rw [PodStore.settled_add add status] at settled
    rw [PodStore.settled_add add (Pod.ofPod_attached lasting status), Pod.selections_withStatus]
    exact Attachment.attached_append.2 (.inl settled)
  | detached remove status found =>
    refine ⟨rfl, Pod.selections_withStatus, fun n settled => ?_⟩
    rw [PodStore.settled_remove remove status] at settled
    rw [PodStore.settled_remove remove (Pod.ofPod_detached lasting status _), Pod.selections_withStatus]
    intro attached
    apply settled (attached.mono _)
    rw [Attachment.detachOne_eq]
    exact fun a ha => List.mem_of_mem_eraseP ha

/-! ## Deliveries -/

/-- The pod with a name is stored under it, if it is stored, and its status lasts. -/
def PodStore.Tidy (s : PodStore) (key : ObjectKey) : Prop :=
  ∀ pod, s.get key = .ok pod → pod.key = key ∧ pod.Lasting

theorem PodStore.Tidy.shows (h : s.Tidy request.pod) (stored : s.get request.pod = .ok pod) :
    s.Shows pod :=
  ⟨(h pod stored).1 ▸ stored, (h pod stored).2⟩

/-- Every visit of a tour meets with a pod that those before have brought on, and brings it on. -/
theorem Tour.visited {networks : List Selection} {visits : List Visit}
    (tour : Tour retries request networks pod s visits r s') (own : pod.key = request.pod)
    (h : s.Shows pod) :
    ∃ final, s'.Shows final ∧ request.Onward pod final
      ∧ ∀ (i : Nat) (v : Visit) (network : Selection), visits[i]? = some v →
        networks[i]? = some network → ∃ after,
          Visited request network v.pod v.exchanges v.result after ∧ v.pod.Lasting
          ∧ request.Onward pod v.pod ∧ request.Onward after final := by
  induction tour with
  | done pod s => exact ⟨pod, h, .refl pod, nofun⟩
  | failed course =>
    rw [← own] at course
    obtain ⟨after, visited, h'⟩ := h.visit course
    refine ⟨after, h', visited.onward h.lasting, fun i v network hv hn => ?_⟩
    cases i with
    | zero =>
      cases hv
      cases hn
      exact ⟨after, visited, h.lasting, .refl _, .refl _⟩
    | succ i => cases hv
  | next course rest ih =>
    rw [← own] at course
    obtain ⟨after, visited, h'⟩ := h.visit course
    have step := visited.onward h.lasting
    obtain rfl := visited.eq_of_ok
    obtain ⟨final, shows', onward, visits⟩ := ih (step.key.trans own) h'
    refine ⟨final, shows', step.trans onward, fun i v network hv hn => ?_⟩
    cases i with
    | zero =>
      cases hv
      cases hn
      exact ⟨_, visited, h.lasting, .refl _, onward⟩
    | succ i =>
      obtain ⟨after', visited', lasting, before, behind⟩ := visits i v network hv hn
      exact ⟨after', visited', lasting, step.trans before, behind⟩

theorem Request.Delivery.visited {visits : List Visit}
    (delivery : request.Delivery retries s visits s') (h : s.Tidy request.pod) :
    s'.Tidy request.pod
      ∧ (∀ pod, s.get request.pod = .ok pod → ∃ final, s'.get request.pod = .ok final
        ∧ request.Onward pod final)
      ∧ ∀ (i : Nat) (v : Visit) (network : Selection), visits[i]? = some v →
        request.networks[i]? = some network →
        ∃ pod after final, s.get request.pod = .ok pod ∧ s'.get request.pod = .ok final
          ∧ Visited request network v.pod v.exchanges v.result after ∧ v.pod.Lasting
          ∧ request.Onward pod v.pod ∧ request.Onward after final := by
  cases delivery with
  | missing read =>
    obtain ⟨missing, same⟩ := read.read
    refine ⟨fun pod stored => ?_, fun pod stored => ?_, nofun⟩
    · rw [same, ← missing] at stored
      cases stored
    · rw [← missing] at stored
      cases stored
  | @found pod m _ _ r read tour =>
    obtain ⟨stored, same⟩ := read.read
    have own := (h pod stored.symm).1
    obtain ⟨final, shows', onward, visits⟩ :=
      tour.visited own ((h.shows stored.symm).congr (own ▸ same))
    have stored' : s'.get request.pod = .ok final := by
      rw [← own, ← onward.key]
      exact shows'.stored
    refine ⟨fun p hp => ?_, fun p hp => ?_, fun i v network hv hn => ?_⟩
    · cases stored'.symm.trans hp
      exact ⟨onward.key.trans own, shows'.lasting⟩
    · cases stored.trans hp
      exact ⟨final, stored', onward⟩
    · obtain ⟨after, visited⟩ := visits i v network hv hn
      exact ⟨pod, after, final, stored.symm, stored', visited⟩

/-- Deliveries bring on a pod that nobody else writes. -/
theorem onward_of_run {ds : List (List Visit)} (run : Run (request.Delivery retries) s ds s')
    (h : s.Tidy request.pod) :
    s'.Tidy request.pod ∧ ∀ pod, s.get request.pod = .ok pod →
      ∃ final, s'.get request.pod = .ok final ∧ request.Onward pod final := by
  induction run with
  | nil => exact ⟨h, fun pod stored => ⟨pod, stored, .refl pod⟩⟩
  | snoc _ delivery ih =>
    obtain ⟨tidy, onward, -⟩ := delivery.visited ih.1
    refine ⟨tidy, fun pod stored => ?_⟩
    obtain ⟨middle, stored', first⟩ := ih.2 pod stored
    obtain ⟨final, stored'', second⟩ := onward middle stored'
    exact ⟨final, stored'', first.trans second⟩

/-! ## Replays -/

/-- What a call for a network must come to so that the network is settled by it. The interface that
the plugin reports must be one that the selection refers to, or nothing else may be recorded that
it refers to. -/
def Request.Suffices (request : Request) (network : Selection) (pod : Pod)
    (answer : Except Fault Plugin.Response) : Prop :=
  match request.direction with
  | .add => ∃ result ∈ answer.toOption.bind (·.result),
      (Attachment.ofResult network result).matchesSelection network pod.selections = true
  | .remove => ∃ recorded ∈ (Attachment.ofPod pod).toOption,
      recorded.countP (·.matchesSelection network pod.selections) = 1

instance (answer : Except Fault Plugin.Response) :
    Decidable (request.Suffices network pod answer) :=
  match h : request.direction with
  | .add => decidable_of_iff (∃ result ∈ answer.toOption.bind (·.result),
      (Attachment.ofResult network result).matchesSelection network pod.selections = true)
      (by rw [Request.Suffices, h])
  | .remove => decidable_of_iff (∃ recorded ∈ (Attachment.ofPod pod).toOption,
      recorded.countP (·.matchesSelection network pod.selections) = 1)
      (by rw [Request.Suffices, h])

theorem not_attached_detachOne {recorded : List Attachment} {a : Attachment} {all : List Selection}
    (found : Attachment.find? recorded network all = some a) :
    ¬Attachment.Attached (Attachment.detachOne all recorded network) network all
      ↔ recorded.countP (·.matchesSelection network all) = 1 := by
  obtain ⟨refers, front, back, rfl, none⟩ := List.find?_eq_some_iff_append.1 found
  have none : front.countP (·.matchesSelection network all) = 0 :=
    List.countP_eq_zero.2 fun b hb => by simpa using none b hb
  have left : Attachment.detachOne all (front ++ a :: back) network = front ++ back := by
    rw [Attachment.detachOne_eq, List.eraseP_append_right _ (List.countP_eq_zero.1 none),
      List.eraseP_cons_of_pos (by exact refers)]
  have one : (a :: back).countP (·.matchesSelection network all)
      = back.countP (·.matchesSelection network all) + 1 :=
    List.countP_cons_of_pos refers
  rw [left, List.countP_append, one, none, Nat.zero_add, Nat.add_eq_right, List.countP_eq_zero]
  rw [List.countP_eq_zero] at none
  simp only [Attachment.Attached, List.mem_append, not_exists, not_and]
  exact ⟨fun h b hb => h b (.inr hb), fun h b hb => hb.elim (none b) (h b)⟩

theorem Visited.settled_iff {call : Plugin.Call × Except Fault Plugin.Response}
    (h : Visited request network pod es (.ok pod') pod') (lasting : pod.Lasting)
    (called : call ∈ calls es) :
    request.Settled network pod' ↔ request.Suffices network pod call.2 := by
  generalize hr : (Except.ok pod' : Except Fault Pod) = r at h
  cases h with
  | failed => cases hr
  | passed settled silent =>
    rw [silent] at called
    cases called
  | attached add status absent call' made =>
    rw [call', List.mem_singleton] at called
    subst called
    rw [PodStore.settled_add add (Pod.ofPod_attached lasting status), Pod.selections_withStatus,
      Attachment.attached_append, or_iff_right absent]
    simp [Request.Suffices, add, Except.toOption, made, Attachment.Attached]
  | detached remove status found defined call' =>
    rw [PodStore.settled_remove remove (Pod.ofPod_detached lasting status _),
      Pod.selections_withStatus, not_attached_detachOne found]
    simp [Request.Suffices, remove, Except.toOption, status]

theorem Visited.silent (h : Visited request network pod es r pod')
    (settled : request.Settled network pod) : calls es = [] := by
  cases h with
  | failed _ unsettled => exact absurd settled unsettled
  | passed _ silent => exact silent
  | attached add status absent => exact absurd ((PodStore.settled_add add status).1 settled) absent
  | detached remove status found =>
    have absent := (PodStore.settled_remove remove status).1 settled
    rw [← Attachment.find?_eq_none, found] at absent
    cases absent

theorem Visited.silent_iff (h : Visited request network pod es (.ok pod') pod') :
    calls es = [] ↔ request.Settled network pod := by
  refine ⟨fun silent => ?_, h.silent⟩
  generalize hr : (Except.ok pod' : Except Fault Pod) = r at h
  cases h with
  | failed => cases hr
  | passed settled => exact settled
  | attached add status absent called =>
    rw [called] at silent
    cases silent
  | detached remove status found defined called =>
    rw [called] at silent
    cases silent

/-- Once a network of a request was completed, no later delivery calls the plugin for it if it was
settled then. It was settled then if it was passed over, and otherwise exactly if the call
suffices. Whenever a network is completed, the plugin is called exactly if it is not settled at
that moment. Doubles in foreign fields of the status are taken to read back as they are written. -/
theorem replay_passes_over_what_is_settled {before between : List (List Visit)}
    {earlier later : List Visit} {i : Nat} {v w : Visit} (named : s.Named)
    (doubles : ∀ pod recorded, s.get request.pod = .ok pod → Attachment.ofPod pod = .ok recorded →
      ∀ a ∈ recorded, ∀ m ∈ a.extra.entries, m.2.Leaves Json.Exact)
    (run : Run (request.Delivery retries) s (before ++ earlier :: (between ++ [later])) s')
    (selected : request.networks[i]? = some network) (first : earlier[i]? = some v)
    (again : later[i]? = some w) (completed : v.result = .ok pod) :
    (request.Settled network pod → calls w.exchanges = [])
      ∧ (calls v.exchanges = [] → request.Settled network pod)
      ∧ (∀ call ∈ calls v.exchanges,
          request.Settled network pod ↔ request.Suffices network v.pod call.2)
      ∧ ∀ pod', w.result = .ok pod' → (calls w.exchanges = [] ↔ request.Settled network w.pod) := by
  have tidy : s.Tidy request.pod := fun pod stored =>
    ⟨named (PodStore.get_eq_ok.1 stored), fun recorded status =>
      Attachment.lasting_of_parseList status (doubles pod recorded stored status)⟩
  obtain ⟨u, run₁, run₂⟩ := run.split
  have tidy := (onward_of_run run₁ tidy).1
  rw [← List.cons_append] at run₂
  obtain ⟨u₃, run₃, last⟩ := run₂.last
  obtain ⟨u₁, one, run₄⟩ := Run.split (show Run _ u ([earlier] ++ between) u₃ from run₃)
  obtain ⟨u₂, none, delivery⟩ := Run.last (show Run _ u ([] ++ [earlier]) u₁ from one)
  cases none.eq_of_nil
  obtain ⟨tidy₁, -, visits⟩ := delivery.visited tidy
  obtain ⟨_, after, final, -, stored, visited, lasting, -, behind⟩ :=
    visits i v network first selected
  rw [completed] at visited
  obtain rfl := visited.eq_of_ok
  obtain ⟨tidy₃, onward⟩ := onward_of_run run₄ tidy₁
  obtain ⟨present, stored', between⟩ := onward final stored
  obtain ⟨-, -, visits'⟩ := last.visited tidy₃
  obtain ⟨present', after', -, found, -, visited', -, before', -⟩ :=
    visits' i w network again selected
  cases stored'.symm.trans found
  have later (settled : request.Settled network pod) : request.Settled network w.pod :=
    before'.settled network (between.settled network (behind.settled network settled))
  refine ⟨fun settled => visited'.silent (later settled), fun silent => ?_,
    fun call called => visited.settled_iff lasting called, fun stored ok => ?_⟩
  · exact (visited.onward lasting).settled network (visited.silent_iff.1 silent)
  · rw [ok] at visited'
    obtain rfl := visited'.eq_of_ok
    exact visited'.silent_iff

/-- A store with a pod that selects no network and has this status. -/
private def storeWithStatus (status : String) : PodStore :=
  (PodStore.empty.apply ⟨"ns1", "pod1", "u1", 1,
    ((∅ : Dict String).insert networksKey "").insert statusKey status,
    [⟨"c", "docker://abc"⟩]⟩).2

/-- Surroundings without a definition of the network `bad`. -/
private def withoutBad : (q : Action) → PodStore → q.Answer × PodStore :=
  PodStore.respond
    (fun key => if key.name = "bad" then .error (.notFound .definition key)
      else .ok ⟨key.space, key.name, "\x7b\x7d"⟩)
    (fun call => ⟨some ⟨"", [⟨call.interface, "", ""⟩], [], [], .empty⟩⟩)

private theorem kept_withoutBad (key : ObjectKey) (q : Action) (s : PodStore) :
    s.Kept key ⟨q, (withoutBad q s).1⟩ (withoutBad q s).2 :=
  PodStore.kept_respond _ _ key q s

/-- A network is attached, and passed over when the request is delivered again. -/
theorem attached_network_is_passed_over :
    let net : Selection := ⟨"net", "ns1", some "eth1", [], none, [], none⟩
    let bad : Selection := ⟨"bad", "ns1", none, [], none, [], none⟩
    let request : Request := ⟨⟨"ns1", "pod1"⟩, .add, [net, bad], ""⟩
    ∃ (s s' : PodStore) (earlier later : List Visit) (v w : Visit) (pod : Pod),
      Run (request.Delivery 5) s [earlier, later] s'
        ∧ earlier[0]? = some v ∧ v.result = .ok pod ∧ (calls v.exchanges).length = 1
        ∧ later[0]? = some w ∧ calls w.exchanges = [] := by
  intro net bad request
  let s := storeWithStatus ""
  let first := request.deliver withoutBad 5 s
  let second := request.deliver withoutBad 5 first.2
  have run : Run (request.Delivery 5) s [first.1, second.1] second.2 :=
    (Run.nil.snoc (Request.delivery_deliver (kept_withoutBad _) 5 s)).snoc
      (Request.delivery_deliver (kept_withoutBad _) 5 first.2)
  obtain ⟨v, hv, ⟨pod, ok, -⟩, once, enough⟩ : ∃ v ∈ first.1[0]?, (∃ pod ∈ v.result.toOption, True)
      ∧ (calls v.exchanges).length = 1
      ∧ ∀ call ∈ calls v.exchanges, request.Suffices net v.pod call.2 := by
    decide +kernel
  have doubles : ∀ pod recorded, s.get request.pod = .ok pod →
      Attachment.ofPod pod = .ok recorded → ∀ a ∈ recorded, ∀ m ∈ a.extra.entries,
        m.2.Leaves Json.Exact := by
    have none : ∀ pod ∈ (s.get request.pod).toOption, ∀ recorded ∈ (Attachment.ofPod pod).toOption,
        recorded = [] := by
      decide +kernel
    intro pod recorded stored status a ha
    rw [none pod (by rw [stored]; rfl) recorded (by rw [status]; rfl)] at ha
    cases ha
  obtain ⟨w, hw⟩ := Option.isSome_iff_exists.1 (by decide +kernel : second.1[0]?.isSome = true)
  have completed := mem_toOption.1 ok
  obtain ⟨call, only⟩ := List.length_eq_one_iff.1 once
  have called : call ∈ calls v.exchanges := by rw [only]; exact List.mem_singleton_self call
  obtain ⟨later, -, settled, -⟩ := replay_passes_over_what_is_settled
    ((PodStore.stores_apply _ _).named PodStore.named_empty) doubles
    (show Run _ s ([] ++ first.1 :: ([] ++ [second.1])) second.2 from run)
    (rfl : request.networks[0]? = some net) hv hw completed
  exact ⟨s, second.2, first.1, second.1, v, w, pod, run, hv, completed, once, hw,
    later ((settled call called).2 (enough call called))⟩

/-- Two attachments of a network are detached. The second failure to detach another network comes
after the attachment that the first delivery left was detached for the same selection. -/
theorem detached_network_is_detached_again :
    let net : Selection := ⟨"net", "ns1", none, [], none, [], none⟩
    let bad : Selection := ⟨"bad", "ns1", none, [], none, [], none⟩
    let named : Selection := ⟨"net", "ns1", some "eth1", [], none, [], none⟩
    let request : Request := ⟨⟨"ns1", "pod1"⟩, .remove, [net, bad, named], ""⟩
    ∃ (s s' : PodStore) (earlier later : List Visit) (v w : Visit) (pod : Pod),
      Run (request.Delivery 5) s [earlier, later] s'
        ∧ earlier[0]? = some v ∧ v.result = .ok pod
        ∧ (calls v.exchanges).map (·.1.interface) = ["net1"]
        ∧ later[0]? = some w ∧ (calls w.exchanges).map (·.1.interface) = ["eth1"] := by
  intro net bad named request
  let s := storeWithStatus ("[\x7b\"name\":\"ns1/net\",\"interface\":\"net1\"\x7d,"
    ++ "\x7b\"name\":\"ns1/bad\",\"interface\":\"b1\"\x7d,"
    ++ "\x7b\"name\":\"ns1/net\",\"interface\":\"eth1\"\x7d]")
  let first := request.deliver withoutBad 5 s
  let second := request.deliver withoutBad 5 first.2
  have run : Run (request.Delivery 5) s [first.1, second.1] second.2 :=
    (Run.nil.snoc (Request.delivery_deliver (kept_withoutBad _) 5 s)).snoc
      (Request.delivery_deliver (kept_withoutBad _) 5 first.2)
  obtain ⟨v, hv, ⟨pod, ok, -⟩, detached⟩ : ∃ v ∈ first.1[0]?, (∃ pod ∈ v.result.toOption, True)
      ∧ (calls v.exchanges).map (·.1.interface) = ["net1"] := by
    decide +kernel
  obtain ⟨w, hw, again⟩ : ∃ w ∈ second.1[0]?,
      (calls w.exchanges).map (·.1.interface) = ["eth1"] := by
    decide +kernel
  have completed := mem_toOption.1 ok
  exact ⟨s, second.2, first.1, second.1, v, w, pod, run, hv, completed, detached, hw, again⟩

end NetAttach
