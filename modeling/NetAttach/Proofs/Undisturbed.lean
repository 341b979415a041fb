-- SUMMARY: What a request does to its pod, call by call, while nobody else writes the pod.
import NetAttach.Proofs.Course
import NetAttach.Proofs.Site
import NetAttach.Proofs.StatusWrite

/-!
# Requests on a pod that nobody else writes

While others leave the pod of a request alone, no write of its status is refused. So
each network of the request is passed over, is attached or detached by one call of the
plugin, or fails and leaves the pod as it was. The definitions and the plugin may answer
as they like, and other pods may be written at any moment.
-/

namespace NetAttach

open Program

/-- The status of a pod lasts if it is readable. -/
def Pod.Lasting (pod : Pod) : Prop :=
  ∀ recorded, Attachment.ofPod pod = .ok recorded → ∀ a ∈ recorded, a.Lasting

namespace Pod

variable {pod : Pod} {recorded updated : List Attachment} {network : Selection}

theorem selections_withStatus : (pod.withStatus updated).selections = pod.selections := by
  rw [selections, selections, Selection.ofPod_withStatus]

theorem ofPod_attached {result : Plugin.Result} (lasting : pod.Lasting)
    (status : Attachment.ofPod pod = .ok recorded) :
    Attachment.ofPod (pod.withStatus (recorded ++ [Attachment.ofResult network result]))
      = .ok (recorded ++ [Attachment.ofResult network result]) :=
  Attachment.ofPod_withStatus (Attachment.lasting_attached (lasting recorded status))

theorem ofPod_detached (lasting : pod.Lasting) (status : Attachment.ofPod pod = .ok recorded)
    (all : List Selection) :
    Attachment.ofPod (pod.withStatus (Attachment.detachOne all recorded network))
      = .ok (Attachment.detachOne all recorded network) :=
  Attachment.ofPod_withStatus (Attachment.lasting_detachOne all (lasting recorded status))

end Pod

/-- The calls of the plugin with the answers to them. -/
def Exchange.calls (es : List Exchange) : List (Plugin.Call × Except Fault Plugin.Response) :=
  es.filterMap fun
    | ⟨.invoke call, answer⟩ => some (call, answer)
    | _ => none

@[simp] theorem Exchange.calls_append (es es' : List Exchange) :
    calls (es ++ es') = calls es ++ calls es' :=
  List.filterMap_append

/-- The events that were emitted. -/
def Exchange.events (es : List Exchange) : List Event :=
  es.filterMap fun
    | ⟨.emit event, _⟩ => some event
    | _ => none

@[simp] theorem Exchange.events_append (es es' : List Exchange) :
    events (es ++ es') = events es ++ events es' :=
  List.filterMap_append

/-- The pods of the writes that were accepted. -/
def Exchange.writes (es : List Exchange) : List Pod :=
  es.filterMap fun
    | ⟨.updatePod _, .ok pod⟩ => some pod
    | _ => none

@[simp] theorem Exchange.writes_append (es es' : List Exchange) :
    writes (es ++ es') = writes es ++ writes es' :=
  List.filterMap_append

theorem Exchange.mem_writes {es : List Exchange} {new : Pod} :
    new ∈ writes es ↔ ∃ written, ⟨.updatePod written, .ok new⟩ ∈ es := by
  refine List.mem_filterMap.trans ⟨?_, fun ⟨written, mem⟩ => ⟨_, mem, rfl⟩⟩
  rintro ⟨⟨action, answer⟩, mem, wrote⟩
  cases action with
  | updatePod written =>
    cases answer with
    | error => cases wrote
    | ok => cases wrote; exact ⟨written, mem⟩
  | _ => cases wrote

open Exchange (calls)

namespace PodStore

/-! ## Stores that others leave alone -/

/-- How a store answers an action after others have written it, but not the pod with this name. -/
def Kept (key : ObjectKey) (s : PodStore) (e : Exchange) (s' : PodStore) : Prop :=
  ∃ m : PodStore, m.get key = s.get key ∧ m.Answers e s'

/-- A pod is stored, with a status that lasts. -/
structure Shows (s : PodStore) (pod : Pod) : Prop where
  stored : s.get pod.key = .ok pod
  lasting : pod.Lasting

variable {s s' : PodStore} {pod : Pod} {recorded updated : List Attachment} {network : Selection}
  {es told : List Exchange} {key : ObjectKey}

theorem Shows.congr (h : s.Shows pod) (same : s'.get pod.key = s.get pod.key) : s'.Shows pod :=
  ⟨same.trans h.stored, h.lasting⟩

/-- An action that writes no pod leaves the store alone. -/
theorem Kept.get {e : Exchange} (h : Kept key s e s') (unwritten : ∀ pod, e.1 ≠ .updatePod pod) :
    s'.get key = s.get key := by
  obtain ⟨m, same, answers⟩ := h
  obtain ⟨action, answer⟩ := e
  cases action with
  | updatePod pod => exact absurd rfl (unwritten pod)
  | getPod => exact answers.2 ▸ same
  | _ => exact (show s' = m from answers) ▸ same

theorem Kept.read {r : Except Fault Pod} (h : Kept key s ⟨.getPod key, r⟩ s') :
    r = s.get key ∧ s'.get key = s.get key := by
  obtain ⟨m, same, rfl, rfl⟩ := h
  exact ⟨same, same⟩

/-- A status is written as it is computed from the stored pod. -/
theorem Shows.write (h : s.Shows pod) (lasting : ∀ a ∈ updated, a.Lasting) {r : Except Fault Pod}
    (write : Kept pod.key s
      ⟨.updatePod (pod.annotate statusKey (Attachment.renderList updated)), r⟩ s') :
    r = .ok (pod.withStatus updated) ∧ s'.Shows (pod.withStatus updated) := by
  obtain ⟨m, same, answers⟩ := write
  obtain ⟨accepted, stored⟩ := update_withStatus (same.trans h.stored) updated
  cases accepted.symm.trans answers
  refine ⟨rfl, stored, fun recorded status => ?_⟩
  rw [Attachment.ofPod_withStatus lasting] at status
  cases status
  exact lasting

/-! ## Parts of a request -/

theorem kept_tells (h : Tells (Kept key) s told s') :
    s'.get key = s.get key ∧ calls told = [] := by
  cases h with
  | nothing => exact ⟨rfl, rfl⟩
  | notice n answer => exact ⟨answer.get nofun, rfl⟩

theorem kept_call {call : Definition → Plugin.Call} {r : Except Fault Plugin.Response}
    (h : CallCourse (Kept key) network call s es r s') : s'.get key = s.get key := by
  cases h with
  | undefined missing tell => exact (tell.get nofun).trans (missing.get nofun)
  | answered defined answer => exact (answer.get nofun).trans (defined.get nofun)

/-- What a change of the status of a stored pod computes is written. -/
theorem Shows.update {limit left : Nat} {key : ObjectKey} {change : StatusChange} {r : Except Fault Pod}
    {x : Except Fault (Option (List Attachment))} (h : s.Shows pod)
    (status : Attachment.ofPod pod = .ok recorded)
    (computes : ∀ {es y m}, Attempt.Course (Kept pod.key) (change pod recorded) s es y m →
      y = x ∧ m.get pod.key = s.get pod.key ∧ calls es = [])
    (lasting : ∀ updated, x = .ok (some updated) → ∀ a ∈ updated, a.Lasting)
    (course : StatusCourse (Kept pod.key) limit key change left pod s es r s') :
    calls es = [] ∧ ∃ pod', r = x.map (fun _ => pod') ∧ s'.Shows pod'
      ∧ pod' = match x with
        | .ok (some updated) => pod.withStatus updated
        | _ => pod := by
  -- a write is accepted, whatever comes after it
  have writes : ∀ {recorded' updated : List Attachment} {es : List Exchange} {m m' : PodStore}
      {answer : Except Fault Pod}, Attachment.ofPod pod = .ok recorded' →
      Attempt.Course (Kept pod.key) (change pod recorded') s es (.ok (some updated)) m →
      Kept pod.key m
        ⟨.updatePod (pod.annotate statusKey (Attachment.renderList updated)), answer⟩ m' →
      x = .ok (some updated) ∧ calls es = [] ∧ answer = .ok (pod.withStatus updated)
        ∧ m'.Shows (pod.withStatus updated) := by
    intro recorded' updated es m m' answer status' changes write
    cases status'.symm.trans status
    obtain ⟨rfl, same, silent⟩ := computes changes
    obtain ⟨rfl, shows'⟩ := (h.congr same).write (lasting updated rfl) write
    exact ⟨rfl, silent, rfl, shows'⟩
  cases course with
  | unreadable status' => cases status'.symm.trans status
  | impossible status' fails =>
    cases status'.symm.trans status
    obtain ⟨rfl, same, silent⟩ := computes fails
    exact ⟨silent, pod, rfl, h.congr same, rfl⟩
  | unchanged status' nothing =>
    cases status'.symm.trans status
    obtain ⟨rfl, same, silent⟩ := computes nothing
    exact ⟨silent, pod, rfl, h.congr same, rfl⟩
  | stored status' changes write =>
    obtain ⟨rfl, silent, ⟨⟩, shows'⟩ := writes status' changes write
    refine ⟨?_, _, rfl, shows', rfl⟩
    rw [Exchange.calls_append, silent]
    rfl
  | refused status' changes write =>
    obtain ⟨-, -, ⟨⟩, -⟩ := writes status' changes write
  | again _ status' changes write =>
    obtain ⟨-, -, ⟨⟩, -⟩ := writes status' changes write
  | lost status' changes write =>
    obtain ⟨-, -, ⟨⟩, -⟩ := writes status' changes write

theorem kept_recordNew {attached : Attachment} {y : Except Fault (Option (List Attachment))}
    {m : PodStore} (absent : ¬Attachment.Attached recorded network pod.selections)
    (h : Attempt.Course (Kept key) (recordNew network attached pod recorded) s es y m) :
    y = ((Attachment.record recorded attached).mapError .invalid).map some
      ∧ m.get key = s.get key ∧ calls es = [] := by
  obtain ⟨tells, rfl⟩ := recordNew_course h
  exact ⟨if_neg absent, kept_tells tells⟩

end PodStore

/-! ## One network of a request -/

/-- Attach or detach one network of a request. -/
def workOne (retries : Nat) (request : Request) (network : Selection) (pod : Pod) : Attempt Pod :=
  match request.direction with
  | .add => attach retries request pod network
  | .remove => detach retries request pod network

/-- The status of a pod is readable, and there is nothing to do for a network of a request. -/
def Request.Settled (request : Request) (network : Selection) (pod : Pod) : Prop :=
  ∃ recorded, Attachment.ofPod pod = .ok recorded ∧ match request.direction with
    | .add => Attachment.Attached recorded network pod.selections
    | .remove => ¬Attachment.Attached recorded network pod.selections

/-- What comes of one network of a request on a pod that nobody else writes: the exchanges, the
result, and the pod as it is stored then. -/
inductive Visited (request : Request) (network : Selection) (pod : Pod) :
    List Exchange → Except Fault Pod → Pod → Prop where
  | failed (es : List Exchange) (cause : Fault) (unsettled : ¬request.Settled network pod) :
    Visited request network pod es (.error cause) pod
  | passed {es : List Exchange} (settled : request.Settled network pod) (silent : calls es = []) :
    Visited request network pod es (.ok pod) pod
  | attached {es : List Exchange} {recorded : List Attachment} {definition : Definition}
    {response : Plugin.Response} {result : Plugin.Result} (add : request.direction = .add)
    (status : Attachment.ofPod pod = .ok recorded)
    (absent : ¬Attachment.Attached recorded network pod.selections)
    (called : calls es
      = [(pluginCall .add request pod network (network.interface?.getD "") definition, .ok response)])
    (made : response.result = some result) :
    Visited request network pod es
      (.ok (pod.withStatus (recorded ++ [Attachment.ofResult network result])))
      (pod.withStatus (recorded ++ [Attachment.ofResult network result]))
  | detached {es : List Exchange} {recorded : List Attachment} {attached : Attachment}
    {definition : Definition} {response : Plugin.Response} (remove : request.direction = .remove)
    (status : Attachment.ofPod pod = .ok recorded)
    (found : Attachment.find? recorded network pod.selections = some attached)
    (defined : ⟨.getDefinition ⟨network.space, network.name⟩, .ok definition⟩ ∈ es)
    (called : calls es
      = [(pluginCall .del request pod network attached.interface definition, .ok response)]) :
    Visited request network pod es
      (.ok (pod.withStatus (Attachment.detachOne pod.selections recorded network)))
      (pod.withStatus (Attachment.detachOne pod.selections recorded network))

namespace PodStore

variable {s s' : PodStore} {pod : Pod} {network : Selection} {request : Request} {retries : Nat}
  {es : List Exchange} {r : Except Fault Pod} {key : ObjectKey}

theorem calls_of_answered {answers : PodStore → Exchange → PodStore → Prop}
    {call : Definition → Plugin.Call} {response : Plugin.Response}
    (h : CallCourse answers network call s es (.ok response) s') :
    ∃ definition, ⟨.getDefinition ⟨network.space, network.name⟩, .ok definition⟩ ∈ es
      ∧ calls es = [(call definition, .ok response)] := by
  cases h with
  | answered => exact ⟨_, by simp, rfl⟩

/-- What the plugin has made is recorded, or nothing is. -/
theorem Shows.record {recorded : List Attachment} {result : Plugin.Result} (h : s.Shows pod)
    (status : Attachment.ofPod pod = .ok recorded)
    (absent : ¬Attachment.Attached recorded network pod.selections)
    (course : StatusCourse (Kept pod.key) retries pod.key
      (recordNew network (Attachment.ofResult network result)) retries pod s es r s') :
    calls es = [] ∧ ((∃ cause, r = .error cause ∧ s'.Shows pod)
      ∨ (r = .ok (pod.withStatus (recorded ++ [Attachment.ofResult network result]))
        ∧ s'.Shows (pod.withStatus (recorded ++ [Attachment.ofResult network result])))) := by
  have lasting : ∀ a ∈ recorded ++ [Attachment.ofResult network result], a.Lasting :=
    Attachment.lasting_attached (h.lasting recorded status)
  have computes : ∀ {es y m}, Attempt.Course (Kept pod.key)
      (recordNew network (Attachment.ofResult network result) pod recorded) s es y m → _ :=
    fun course => kept_recordNew absent course
  cases record : Attachment.record recorded (Attachment.ofResult network result) with
  | error cause =>
    rw [record] at computes
    obtain ⟨silent, _, hr, shows', rfl⟩ := h.update status computes nofun course
    exact ⟨silent, .inl ⟨_, hr, shows'⟩⟩
  | ok updated =>
    obtain rfl := Attachment.record_eq_ok record
    rw [record] at computes
    obtain ⟨silent, _, hr, shows', rfl⟩ := h.update status computes
      (fun updated same => by cases same; exact lasting) course
    exact ⟨silent, .inr ⟨hr, shows'⟩⟩

theorem calls_between {told es' : List Exchange} {event : Event} (quiet : calls told = [])
    (silent : calls es' = []) :
    calls (told ++ (es ++ (es' ++ [⟨.emit event, ()⟩]))) = calls es := by
  simp only [Exchange.calls_append, quiet, silent]
  exact List.append_nil _

theorem not_settled_of_unreadable {cause : AnnotationFault}
    (status : Attachment.ofPod pod = .error cause) : ¬request.Settled network pod := by
  intro ⟨_, status', _⟩
  cases status.symm.trans status'

theorem settled_add (add : request.direction = .add) {recorded : List Attachment}
    (status : Attachment.ofPod pod = .ok recorded) :
    request.Settled network pod ↔ Attachment.Attached recorded network pod.selections := by
  simp [Request.Settled, status, add]

theorem settled_remove (remove : request.direction = .remove) {recorded : List Attachment}
    (status : Attachment.ofPod pod = .ok recorded) :
    request.Settled network pod ↔ ¬Attachment.Attached recorded network pod.selections := by
  simp [Request.Settled, status, remove]

theorem Shows.attach (h : s.Shows pod) (add : request.direction = .add)
    (course : AttachCourse (Kept pod.key) retries request pod network s es r s') :
    ∃ pod', Visited request network pod es r pod' ∧ s'.Shows pod' := by
  have fails : ∀ {recorded : List Attachment} {es : List Exchange} {cause : Fault},
      Attachment.ofPod pod = .ok recorded →
      ¬Attachment.Attached recorded network pod.selections →
      Visited request network pod es (.error cause) pod :=
    fun status new => .failed _ _ (mt (settled_add add status).1 new)
  cases course with
  | unreadable status => exact ⟨pod, .failed _ _ (not_settled_of_unreadable status), h⟩
  | present status attached tells =>
    obtain ⟨same, silent⟩ := kept_tells tells
    exact ⟨pod, .passed ((settled_add add status).2 attached) silent, h.congr same⟩
  | taken status new asked held tells =>
    exact ⟨pod, fails status new, h.congr (kept_tells tells).1⟩
  | failed status new tells call =>
    exact ⟨pod, fails status new, h.congr ((kept_call call).trans (kept_tells tells).1)⟩
  | empty status new tells call =>
    exact ⟨pod, fails status new, h.congr ((kept_call call).trans (kept_tells tells).1)⟩
  | unrecorded status new tells call made update =>
    have shows := h.congr ((kept_call call).trans (kept_tells tells).1)
    obtain ⟨-, ⟨cause, -, shows'⟩ | ⟨⟨⟩, -⟩⟩ := shows.record status new update
    exact ⟨pod, fails status new, shows'⟩
  | attached status absent tells call made update event =>
    obtain ⟨same, quiet⟩ := kept_tells tells
    obtain ⟨definition, -, called⟩ := calls_of_answered call
    have shows := h.congr ((kept_call call).trans same)
    obtain ⟨silent, ⟨_, ⟨⟩, -⟩ | ⟨⟨⟩, shows'⟩⟩ := shows.record status absent update
    exact ⟨_, .attached add status absent ((calls_between quiet silent).trans called) made,
      shows'.congr (event.get nofun)⟩

theorem Shows.detach (h : s.Shows pod) (remove : request.direction = .remove)
    (course : DetachCourse (Kept pod.key) retries request pod network s es r s') :
    ∃ pod', Visited request network pod es r pod' ∧ s'.Shows pod' := by
  -- what was found is dropped
  have drops : ∀ {recorded : List Attachment} {attached : Attachment} {es : List Exchange}
      {r : Except Fault Pod} {m s' : PodStore}, Attachment.ofPod pod = .ok recorded →
      Attachment.find? recorded network pod.selections = some attached → m.Shows pod →
      StatusCourse (Kept pod.key) retries pod.key (dropOld attached) retries pod m es r s' →
      calls es = []
        ∧ r = .ok (pod.withStatus (Attachment.detachOne pod.selections recorded network))
        ∧ s'.Shows (pod.withStatus (Attachment.detachOne pod.selections recorded network)) := by
    intro recorded attached es r m s' status found shows course
    have lasting : ∀ a ∈ Attachment.detachOne pod.selections recorded network, a.Lasting :=
      Attachment.lasting_detachOne _ (h.lasting recorded status)
    obtain ⟨silent, _, hr, shows', rfl⟩ := shows.update
      (x := .ok (some (Attachment.detachOne pod.selections recorded network))) status
      (fun course => by
        unfold dropOld at course
        obtain ⟨rfl, rfl, rfl⟩ := Attempt.course_pure.1 course
        exact ⟨by rw [Attachment.drop?_of_find? found], rfl, rfl⟩)
      (fun updated same => by cases same; exact lasting) course
    exact ⟨silent, hr, shows'⟩
  have fails : ∀ {recorded : List Attachment} {attached : Attachment} {es : List Exchange}
      {cause : Fault}, Attachment.ofPod pod = .ok recorded →
      Attachment.find? recorded network pod.selections = some attached →
      Visited request network pod es (.error cause) pod := by
    intro recorded attached es cause status found
    apply Visited.failed
    rw [settled_remove remove status, ← Attachment.find?_eq_none, found]
    nofun
  cases course with
  | unreadable status => exact ⟨pod, .failed _ _ (not_settled_of_unreadable status), h⟩
  | absent status absent tells =>
    obtain ⟨same, silent⟩ := kept_tells tells
    exact ⟨pod, .passed ((settled_remove remove status).2 absent) silent, h.congr same⟩
  | failed status found tells call =>
    exact ⟨pod, fails status found, h.congr ((kept_call call).trans (kept_tells tells).1)⟩
  | unrecorded status found tells call update =>
    have shows := h.congr ((kept_call call).trans (kept_tells tells).1)
    obtain ⟨-, ⟨⟩, -⟩ := drops status found shows update
  | detached status found tells call update event =>
    obtain ⟨same, quiet⟩ := kept_tells tells
    obtain ⟨definition, defined, called⟩ := calls_of_answered call
    have shows := h.congr ((kept_call call).trans same)
    obtain ⟨silent, ⟨⟩, shows'⟩ := drops status found shows update
    exact ⟨_, .detached remove status found (by simp [defined])
      ((calls_between quiet silent).trans called), shows'.congr (event.get nofun)⟩

theorem Shows.visit (h : s.Shows pod)
    (course : Attempt.Course (Kept pod.key) (workOne retries request network pod) s es r s') :
    ∃ pod', Visited request network pod es r pod' ∧ s'.Shows pod' := by
  unfold workOne at course
  split at course
  · next add => exact h.attach add (attach_course course)
  · next remove => exact h.detach remove (detach_course course)

end PodStore

theorem Visited.eq_of_ok {request : Request} {network : Selection} {pod pod' stored : Pod}
    {es : List Exchange} (h : Visited request network pod es (.ok stored) pod') : stored = pod' := by
  cases h <;> rfl

/-! ## Whole requests -/

/-- What happened to one network of a request: the pod before, what was exchanged, and the result. -/
structure Visit where
  pod : Pod
  exchanges : List Exchange
  result : Except Fault Pod

/-- Networks of a request are visited one after the other, up to the first failure. -/
inductive Tour (retries : Nat) (request : Request) :
    List Selection → Pod → PodStore → List Visit → Except Fault Pod → PodStore → Prop where
  | done (pod : Pod) (s : PodStore) : Tour retries request [] pod s [] (.ok pod) s
  | failed {network : Selection} {networks : List Selection} {pod : Pod} {s s' : PodStore}
    {es : List Exchange} {cause : Fault}
    (course : Attempt.Course (PodStore.Kept request.pod) (workOne retries request network pod) s es
      (.error cause) s') :
    Tour retries request (network :: networks) pod s [⟨pod, es, .error cause⟩] (.error cause) s'
  | next {network : Selection} {networks : List Selection} {pod pod' : Pod} {s m s' : PodStore}
    {es : List Exchange} {visits : List Visit} {r : Except Fault Pod}
    (course : Attempt.Course (PodStore.Kept request.pod) (workOne retries request network pod) s es
      (.ok pod') m) (rest : Tour retries request networks pod' m visits r s') :
    Tour retries request (network :: networks) pod s (⟨pod, es, .ok pod'⟩ :: visits) r s'

/-- One delivery of a request: the pod is read, and its networks are visited. -/
inductive Request.Delivery (request : Request) (retries : Nat) (s : PodStore) :
    List Visit → PodStore → Prop where
  | missing {cause : Fault} {s' : PodStore}
    (read : s.Kept request.pod ⟨.getPod request.pod, .error cause⟩ s') :
    Delivery request retries s [] s'
  | found {pod : Pod} {m s' : PodStore} {visits : List Visit} {r : Except Fault Pod}
    (read : s.Kept request.pod ⟨.getPod request.pod, .ok pod⟩ m)
    (tour : Tour retries request request.networks pod m visits r s') :
    Delivery request retries s visits s'

section

variable {retries : Nat} {request : Request} {networks : List Selection} {pod : Pod}
  {s s' : PodStore} {es : List Exchange}

theorem workOff_cons (network : Selection) :
    workOff retries request (network :: networks) pod
      = workOne retries request network pod >>= workOff retries request networks := by
  rw [workOff, workOne]
  cases request.direction <;> rfl

theorem workOff_course {r : Except Fault Pod} :
    Attempt.Course (PodStore.Kept request.pod) (workOff retries request networks pod) s es r s'
      ↔ ∃ visits, Tour retries request networks pod s visits r s'
        ∧ es = visits.flatMap Visit.exchanges := by
  induction networks generalizing pod s es with
  | nil =>
    refine Attempt.course_pure.trans ⟨?_, ?_⟩
    · rintro ⟨rfl, rfl, rfl⟩
      exact ⟨[], .done _ _, rfl⟩
    · rintro ⟨visits, tour, rfl⟩
      cases tour
      exact ⟨rfl, rfl, rfl⟩
  | cons network networks ih =>
    rw [workOff_cons, Attempt.course_bind]
    constructor
    · rintro (⟨cause, rfl, course⟩ | ⟨es₁, pod', m, es₂, rfl, course, rest⟩)
      · exact ⟨_, .failed course, by simp⟩
      · obtain ⟨visits, tour, rfl⟩ := ih.1 rest
        exact ⟨_, .next course tour, by simp⟩
    · rintro ⟨visits, tour, rfl⟩
      cases tour with
      | failed course => exact .inl ⟨_, rfl, by simpa using course⟩
      | next course rest =>
        exact .inr ⟨_, _, _, _, List.flatMap_cons, course, ih.2 ⟨_, rest, rfl⟩⟩

theorem reconcile_course {r : Except Fault Unit}
    (h : Attempt.Course (PodStore.Kept request.pod) (reconcile retries request) s es r s') :
    (∃ cause, r = .error cause ∧ es = [⟨.getPod request.pod, .error cause⟩]
        ∧ s.Kept request.pod ⟨.getPod request.pod, .error cause⟩ s')
      ∨ ∃ pod m visits r', r = r'.map (fun _ => ())
        ∧ es = ⟨.getPod request.pod, .ok pod⟩ :: visits.flatMap Visit.exchanges
        ∧ s.Kept request.pod ⟨.getPod request.pod, .ok pod⟩ m
        ∧ Tour retries request request.networks pod m visits r' s' := by
  obtain ⟨cause, rfl, got⟩ | ⟨es₁, pod, m, es₂, rfl, got, h₁⟩ := Attempt.course_bind.1 h
  · obtain ⟨rfl, read⟩ := course_ask.1 (Attempt.course_reply.1 got)
    exact .inl ⟨cause, rfl, rfl, read⟩
  · obtain ⟨rfl, read⟩ := course_ask.1 (Attempt.course_reply.1 got)
    obtain ⟨cause, rfl, works⟩ | ⟨es₃, final, m', es₄, rfl, works, h₂⟩ := Attempt.course_bind.1 h₁
    · obtain ⟨visits, tour, rfl⟩ := workOff_course.1 works
      exact .inr ⟨pod, m, visits, _, rfl, rfl, read, tour⟩
    · obtain ⟨rfl, rfl, rfl⟩ := Attempt.course_pure.1 h₂
      obtain ⟨visits, tour, rfl⟩ := workOff_course.1 works
      exact .inr ⟨pod, m, visits, _, rfl, by simp, read, tour⟩

/-- The courses of a request are its deliveries. -/
theorem delivery_of_course {r : Except Fault Unit}
    (h : Attempt.Course (PodStore.Kept request.pod) (reconcile retries request) s es r s') :
    ∃ answer visits, request.Delivery retries s visits s'
      ∧ es = ⟨.getPod request.pod, answer⟩ :: visits.flatMap Visit.exchanges := by
  obtain ⟨cause, -, rfl, read⟩ | ⟨pod, m, visits, r', -, rfl, read, tour⟩ := reconcile_course h
  · exact ⟨_, [], .missing read, rfl⟩
  · exact ⟨_, visits, .found read tour, rfl⟩

end

/-! ## Requests that run by themselves -/

/-- A store in surroundings where definitions are there or not, and the plugin always succeeds. -/
def PodStore.respond (define : ObjectKey → Except Fault Definition)
    (plugin : Plugin.Call → Plugin.Response) : (q : Action) → PodStore → q.Answer × PodStore
  | .getPod key, s => (s.get key, s)
  | .updatePod pod, s => s.update pod
  | .getDefinition key, s => (define key, s)
  | .invoke call, s => (.ok (plugin call), s)
  | .getNetns _, s => (.ok "", s)
  | .emit _, s | .notify _, s | .enqueue _, s => ((), s)

theorem PodStore.answers_respond (define : ObjectKey → Except Fault Definition)
    (plugin : Plugin.Call → Plugin.Response) (q : Action) (s : PodStore) :
    s.Answers ⟨q, (respond define plugin q s).1⟩ (respond define plugin q s).2 := by
  cases q with
  | getPod => exact ⟨rfl, rfl⟩
  | _ => rfl

theorem PodStore.kept_respond (define : ObjectKey → Except Fault Definition)
    (plugin : Plugin.Call → Plugin.Response) (key : ObjectKey) (q : Action) (s : PodStore) :
    s.Kept key ⟨q, (respond define plugin q s).1⟩ (respond define plugin q s).2 :=
  ⟨s, rfl, answers_respond define plugin q s⟩

namespace Request

/-- The visits to networks in surroundings that always answer in the same way, with the store after
them. -/
def visits (answer : (q : Action) → PodStore → q.Answer × PodStore) (request : Request)
    (retries : Nat) : List Selection → Pod → PodStore → List Visit × PodStore
  | [], _, s => ([], s)
  | network :: networks, pod, s =>
    let program := (workOne retries request network pod).run
    let visit := ⟨pod, program.exchanges answer s, (program.run answer s).1⟩
    match (program.run answer s).1 with
    | .ok pod' =>
      let rest := visits answer request retries networks pod' (program.run answer s).2
      (visit :: rest.1, rest.2)
    | .error _ => ([visit], (program.run answer s).2)

/-- A delivery in surroundings that always answer in the same way. -/
def deliver (answer : (q : Action) → PodStore → q.Answer × PodStore) (request : Request)
    (retries : Nat) (s : PodStore) : List Visit × PodStore :=
  match s.get request.pod with
  | .ok pod => request.visits answer retries request.networks pod s
  | .error _ => ([], s)

variable {answer : (q : Action) → PodStore → q.Answer × PodStore} {request : Request}

theorem tour_visits
    (allowed : ∀ q s, PodStore.Kept request.pod s ⟨q, (answer q s).1⟩ (answer q s).2)
    (retries : Nat) (networks : List Selection) (pod : Pod) (s : PodStore) :
    ∃ r, Tour retries request networks pod s (request.visits answer retries networks pod s).1 r
      (request.visits answer retries networks pod s).2 := by
  induction networks generalizing pod s with
  | nil => exact ⟨_, .done pod s⟩
  | cons network networks ih =>
    have course := course_run allowed (workOne retries request network pod).run s
    unfold visits
    dsimp only
    split
    · next pod' ok =>
      rw [ok] at course ⊢
      obtain ⟨r, rest⟩ := ih pod' _
      exact ⟨r, .next course rest⟩
    · next cause error =>
      rw [error] at course ⊢
      exact ⟨_, .failed course⟩

theorem delivery_deliver
    (allowed : ∀ q s, PodStore.Kept request.pod s ⟨q, (answer q s).1⟩ (answer q s).2)
    (retries : Nat) (s : PodStore) :
    request.Delivery retries s (request.deliver answer retries s).1
      (request.deliver answer retries s).2 := by
  have read : s.Kept request.pod ⟨.getPod request.pod, s.get request.pod⟩ s := ⟨s, rfl, rfl, rfl⟩
  unfold deliver
  split
  · next pod stored =>
    rw [stored] at read
    obtain ⟨r, tour⟩ := tour_visits allowed retries request.networks pod s
    exact .found read tour
  · next cause missing =>
    rw [missing] at read
    exact .missing read

end Request

end NetAttach
