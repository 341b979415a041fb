-- SUMMARY: A delivery works off the networks of its request in order, up to the first one that fails.
import NetAttach.Proofs.Undisturbed
import Mathlib.Data.List.Forall2

/-!
# Deliveries that stop at the first failure

Whatever the surroundings answer, be it that definitions are missing, that calls of the
plugin fail, or that reads and writes of the pod fail or meet with others, one network of
a request comes to one of three things: it is passed over without a trace, it is worked
off by one call and one event, or it fails without an event and without a write. What a
whole delivery does follows from its networks, one after the other.
-/

namespace NetAttach

open Program Exchange

variable {σ : Type} {answers : σ → Exchange → σ → Prop} {s s' : σ} {es told : List Exchange}
  {retries : Nat} {request : Request} {network : Selection} {networks : List Selection} {pod : Pod}

/-! ## Exchanges without effects -/

/-- Nothing was called, emitted or written. -/
structure Exchange.Quiet (es : List Exchange) : Prop where
  calls : calls es = []
  events : events es = []
  writes : writes es = []

theorem Exchange.quiet_nil : Quiet [] := ⟨rfl, rfl, rfl⟩

@[simp] theorem Exchange.calls_emit (event : Event) : calls [⟨.emit event, ()⟩] = [] := rfl

@[simp] theorem Exchange.events_emit (event : Event) : events [⟨.emit event, ()⟩] = [event] := rfl

@[simp] theorem Exchange.writes_emit (event : Event) : writes [⟨.emit event, ()⟩] = [] := rfl

/-- What is done after quiet exchanges is all that was done. -/
theorem Exchange.Quiet.before (h : Quiet es) (rest : List Exchange) :
    Exchange.calls (es ++ rest) = Exchange.calls rest
      ∧ Exchange.events (es ++ rest) = Exchange.events rest
      ∧ Exchange.writes (es ++ rest) = Exchange.writes rest := by
  simp [h.calls, h.events, h.writes]

theorem Tells.quiet (h : Tells answers s told s') : Quiet told := by
  cases h <;> exact ⟨rfl, rfl, rfl⟩

/-- A call of the plugin is all that is done, and it is done unless the definition is missing. -/
theorem CallCourse.counts {call : Definition → Plugin.Call} {r : Except Fault Plugin.Response}
    (h : CallCourse answers network call s es r s') :
    events es = [] ∧ writes es = []
      ∧ ((∃ definition, calls es = [(call definition, r)])
        ∨ (calls es = [] ∧ ∃ cause, r = .error cause)) := by
  cases h with
  | undefined => exact ⟨rfl, rfl, .inr ⟨rfl, _, rfl⟩⟩
  | answered => exact ⟨rfl, rfl, .inl ⟨_, rfl⟩⟩

/-- A status update writes at most once, and not at all if it fails. -/
theorem StatusCourse.counts {limit left : Nat} {key : ObjectKey} {change : StatusChange}
    {r : Except Fault Pod}
    (quiet : ∀ {pod recorded s es y s'},
      Attempt.Course answers (change pod recorded) s es y s' → Quiet es)
    (h : StatusCourse answers limit key change left pod s es r s') :
    calls es = [] ∧ events es = [] ∧ (writes es).length ≤ 1
      ∧ ∀ cause, r = .error cause → writes es = [] := by
  induction left using Nat.strongRecOn generalizing pod s es with
  | ind left ih =>
    cases h with
    | unreadable => exact ⟨rfl, rfl, Nat.zero_le 1, fun _ _ => rfl⟩
    | impossible _ fails =>
      have none := quiet fails
      exact ⟨none.calls, none.events, by simp [none.writes], fun _ _ => none.writes⟩
    | unchanged _ nothing =>
      have none := quiet nothing
      exact ⟨none.calls, none.events, by simp [none.writes], fun _ _ => none.writes⟩
    | stored _ changes =>
      obtain ⟨called, emitted, written⟩ := (quiet changes).before _
      rw [called, emitted, written]
      exact ⟨rfl, rfl, Nat.le_refl 1, nofun⟩
    | refused _ changes =>
      obtain ⟨called, emitted, written⟩ := (quiet changes).before _
      rw [called, emitted, written]
      exact ⟨rfl, rfl, Nat.zero_le 1, fun _ _ => rfl⟩
    | again some_left _ changes _ _ _ course =>
      obtain ⟨called, emitted, written⟩ := (quiet changes).before _
      rw [called, emitted, written]
      subst some_left
      have counted := ih _ (Nat.lt_succ_self _) (rewriteStatus_course course)
      exact counted
    | lost _ changes =>
      obtain ⟨called, emitted, written⟩ := (quiet changes).before _
      rw [called, emitted, written]
      exact ⟨rfl, rfl, Nat.zero_le 1, fun _ _ => rfl⟩

theorem recordNew_quiet {attached : Attachment} {recorded : List Attachment}
    {y : Except Fault (Option (List Attachment))}
    (h : Attempt.Course answers (recordNew network attached pod recorded) s es y s') : Quiet es :=
  (recordNew_course h).1.quiet

theorem dropOld_quiet {attached : Attachment} {recorded : List Attachment}
    {y : Except Fault (Option (List Attachment))}
    (h : Attempt.Course answers (dropOld attached pod recorded) s es y s') : Quiet es := by
  obtain ⟨rfl, -, -⟩ := Attempt.course_pure.1 h
  exact ⟨rfl, rfl, rfl⟩

/-! ## One network -/

namespace Request

/-- The command by which the plugin is called for the networks of a request. -/
def command (request : Request) : Command :=
  match request.direction with
  | .add => .add
  | .remove => .del

/-- A call of the plugin is for a network of a request. -/
def Calls (request : Request) (network : Selection) (pod : Pod) (call : Plugin.Call) : Prop :=
  ∃ interface definition, call = pluginCall request.command request pod network interface definition

/-- An event says that a network of a request was worked off. -/
def Announces (request : Request) (network : Selection) (event : Event) : Prop :=
  ∃ interface, event = match request.direction with
    | .add => ⟨request.pod, "AddedInterface", addedText request.pod interface network.name⟩
    | .remove => ⟨request.pod, "RemovedInterface", removedText request.pod interface network.name⟩

/-- What comes of a visit to one network of a request. -/
inductive Does (request : Request) (network : Selection) (v : Visit) : Prop where
  /-- It is passed over. -/
  | passes (settled : request.Settled network v.pod) (ok : v.result = .ok v.pod)
    (quiet : Quiet v.exchanges)
  /-- It is worked off by one call and one event, with a write at most. -/
  | works {new : Pod} {call : Plugin.Call × Except Fault Plugin.Response} {event : Event}
    (unsettled : ¬request.Settled network v.pod) (ok : v.result = .ok new)
    (called : calls v.exchanges = [call]) (calling : request.Calls network v.pod call.1)
    (emitted : events v.exchanges = [event]) (announcing : request.Announces network event)
    (written : (writes v.exchanges).length ≤ 1)
  /-- It fails, with a call at most. -/
  | fails {cause : Fault} (unsettled : ¬request.Settled network v.pod)
    (error : v.result = .error cause) (called : (calls v.exchanges).length ≤ 1)
    (calling : ∀ call ∈ calls v.exchanges, request.Calls network v.pod call.1)
    (emitted : events v.exchanges = []) (written : writes v.exchanges = [])

end Request

section

variable {call : Definition → Plugin.Call} {es' : List Exchange} {m m' : σ} {event : Event}
  {response : Plugin.Response} {r : Except Fault Plugin.Response} {cause : Fault} {new : Pod}

/-- A network that fails before the plugin is called. -/
theorem Exchange.Quiet.fails (quiet : Quiet es) (unsettled : ¬request.Settled network pod) :
    request.Does network ⟨pod, es, .error cause⟩ := by
  refine .fails unsettled rfl ?_ ?_ quiet.events quiet.writes
  · exact quiet.calls ▸ Nat.zero_le 1
  · exact quiet.calls ▸ nofun

/-- A network that fails with the call of the plugin or after it. -/
theorem CallCourse.fails (h : CallCourse answers network call m es r m')
    (unsettled : ¬request.Settled network pod) (tells : Tells answers s told m)
    (calling : ∀ definition, request.Calls network pod (call definition)) (after : Quiet es') :
    request.Does network ⟨pod, told ++ (es ++ es'), .error cause⟩ := by
  obtain ⟨emitted, written, called⟩ := h.counts
  have quiet := tells.quiet
  have all : calls (told ++ (es ++ es')) = calls es := by simp [quiet.calls, after.calls]
  refine .fails unsettled rfl ?_ ?_ ?_ ?_
  · obtain ⟨_, one⟩ | ⟨none, -⟩ := called <;> simp [*]
  · intro c mem
    obtain ⟨definition, one⟩ | ⟨none, -⟩ := called
    · rw [all, one, List.mem_singleton] at mem
      exact mem ▸ calling definition
    · simp [all, none] at mem
  · simp [quiet.events, emitted, after.events]
  · simp [quiet.writes, written, after.writes]

/-- A network that is worked off. -/
theorem CallCourse.works (h : CallCourse answers network call m es (.ok response) m')
    (unsettled : ¬request.Settled network pod) (tells : Tells answers s told m)
    (calling : ∀ definition, request.Calls network pod (call definition))
    (update : calls es' = [] ∧ events es' = [] ∧ (writes es').length ≤ 1)
    (announcing : request.Announces network event) :
    request.Does network ⟨pod, told ++ (es ++ (es' ++ [⟨.emit event, ()⟩])), .ok new⟩ := by
  obtain ⟨emitted, written, ⟨definition, one⟩ | ⟨-, _, ⟨⟩⟩⟩ := h.counts
  obtain ⟨silent, unannounced, few⟩ := update
  have quiet := tells.quiet
  have called : calls (told ++ (es ++ (es' ++ [⟨.emit event, ()⟩])))
      = [(call definition, .ok response)] := by simp [quiet.calls, one, silent]
  have announced : events (told ++ (es ++ (es' ++ [⟨.emit event, ()⟩]))) = [event] := by
    simp [quiet.events, emitted, unannounced]
  have stored : (writes (told ++ (es ++ (es' ++ [⟨.emit event, ()⟩])))).length ≤ 1 := by
    simpa [quiet.writes, written] using few
  exact .works unsettled rfl called (calling definition) announced announcing stored

end

theorem AttachCourse.does {r : Except Fault Pod} (add : request.direction = .add)
    (h : AttachCourse answers retries request pod network s es r s') :
    request.Does network ⟨pod, es, r⟩ := by
  have calling : ∀ definition, request.Calls network pod
      (pluginCall .add request pod network (network.interface?.getD "") definition) :=
    fun definition => ⟨_, definition, by rw [Request.command, add]⟩
  have unsettled : ∀ {recorded}, Attachment.ofPod pod = .ok recorded →
      ¬Attachment.Attached recorded network pod.selections → ¬request.Settled network pod :=
    fun status new => mt (PodStore.settled_add add status).1 new
  cases h with
  | unreadable status => exact quiet_nil.fails (PodStore.not_settled_of_unreadable status)
  | present status attached tells =>
    exact .passes ((PodStore.settled_add add status).2 attached) rfl tells.quiet
  | taken status new _ _ tells => exact tells.quiet.fails (unsettled status new)
  | failed status new tells call =>
    simpa using call.fails (unsettled status new) tells calling quiet_nil
  | empty status new tells call =>
    simpa using call.fails (unsettled status new) tells calling quiet_nil
  | unrecorded status new tells call _ update =>
    obtain ⟨silent, unannounced, -, unwritten⟩ := update.counts recordNew_quiet
    exact call.fails (unsettled status new) tells calling ⟨silent, unannounced, unwritten _ rfl⟩
  | attached status absent tells call _ update =>
    obtain ⟨silent, unannounced, few, -⟩ := update.counts recordNew_quiet
    exact call.works (unsettled status absent) tells calling ⟨silent, unannounced, few⟩
      ⟨_, by rw [add]⟩

theorem DetachCourse.does {r : Except Fault Pod} (remove : request.direction = .remove)
    (h : DetachCourse answers retries request pod network s es r s') :
    request.Does network ⟨pod, es, r⟩ := by
  have calling : ∀ attached : Attachment, ∀ definition, request.Calls network pod
      (pluginCall .del request pod network attached.interface definition) :=
    fun attached definition => ⟨_, definition, by rw [Request.command, remove]⟩
  have unsettled : ∀ {recorded attached}, Attachment.ofPod pod = .ok recorded →
      Attachment.find? recorded network pod.selections = some attached →
      ¬request.Settled network pod := by
    intro recorded attached status found
    rw [PodStore.settled_remove remove status, ← Attachment.find?_eq_none, found]
    nofun
  cases h with
  | unreadable status => exact quiet_nil.fails (PodStore.not_settled_of_unreadable status)
  | absent status absent tells =>
    exact .passes ((PodStore.settled_remove remove status).2 absent) rfl tells.quiet
  | failed status found tells call =>
    simpa using call.fails (unsettled status found) tells (calling _) quiet_nil
  | unrecorded status found tells call update =>
    obtain ⟨silent, unannounced, -, unwritten⟩ := update.counts dropOld_quiet
    exact call.fails (unsettled status found) tells (calling _) ⟨silent, unannounced, unwritten _ rfl⟩
  | detached status found tells call update =>
    obtain ⟨silent, unannounced, few, -⟩ := update.counts dropOld_quiet
    exact call.works (unsettled status found) tells (calling _) ⟨silent, unannounced, few⟩
      ⟨_, by rw [remove]⟩

theorem does_of_course {r : Except Fault Pod}
    (h : Attempt.Course answers (workOne retries request network pod) s es r s') :
    request.Does network ⟨pod, es, r⟩ := by
  unfold workOne at h
  split at h
  · next add => exact (attach_course h).does add
  · next remove => exact (detach_course h).does remove

/-! ## All networks -/

instance : Decidable (request.Settled network pod) :=
  match status : Attachment.ofPod pod with
  | .error _ => isFalse (PodStore.not_settled_of_unreadable status)
  | .ok _ =>
    match direction : request.direction with
    | .add => decidable_of_iff' _ (PodStore.settled_add direction status)
    | .remove => decidable_of_iff' _ (PodStore.settled_remove direction status)

/-- Networks are visited one after the other, each with the pod that the one before left, up to the
first failure. -/
inductive Round (answers : σ → Exchange → σ → Prop) (retries : Nat) (request : Request) :
    List Selection → Pod → σ → List Visit → Except Fault Unit → σ → Prop where
  | done (pod : Pod) (s : σ) : Round answers retries request [] pod s [] (.ok ()) s
  | failed {network : Selection} {networks : List Selection} {pod : Pod} {s s' : σ}
    {es : List Exchange} {cause : Fault}
    (course : Attempt.Course answers (workOne retries request network pod) s es (.error cause) s') :
    Round answers retries request (network :: networks) pod s [⟨pod, es, .error cause⟩]
      (.error cause) s'
  | next {network : Selection} {networks : List Selection} {pod new : Pod} {s m s' : σ}
    {es : List Exchange} {visits : List Visit} {r : Except Fault Unit}
    (course : Attempt.Course answers (workOne retries request network pod) s es (.ok new) m)
    (rest : Round answers retries request networks new m visits r s') :
    Round answers retries request (network :: networks) pod s (⟨pod, es, .ok new⟩ :: visits) r s'

theorem round_of_course {r : Except Fault Pod}
    (h : Attempt.Course answers (workOff retries request networks pod) s es r s') :
    ∃ visits, Round answers retries request networks pod s visits (r.map fun _ => ()) s'
      ∧ es = visits.flatMap Visit.exchanges := by
  induction networks generalizing pod s es with
  | nil =>
    obtain ⟨rfl, rfl, rfl⟩ := Attempt.course_pure.1 h
    exact ⟨[], .done pod _, rfl⟩
  | cons network networks ih =>
    rw [workOff_cons] at h
    obtain ⟨cause, rfl, course⟩ | ⟨es₁, new, m, es₂, rfl, course, rest⟩ := Attempt.course_bind.1 h
    · exact ⟨_, .failed course, by simp⟩
    · obtain ⟨visits, round, rfl⟩ := ih rest
      exact ⟨_, .next course round, by simp⟩

/-- The position of the first visit that failed. -/
def failing (visits : List Visit) : Nat := visits.findIdx fun v => !v.result.isOk

/-- The visits to networks before the first that failed, without those that were passed over. -/
def Request.worked (request : Request) (networks : List Selection) (visits : List Visit) :
    List (Selection × Visit) :=
  ((networks.zip visits).take (failing visits)).filter fun e => !request.Settled e.1 e.2.pod

section

variable {visits : List Visit} {new : Pod} {cause : Fault} {r : Except Fault Unit}

@[simp] theorem failing_nil : failing [] = 0 := rfl

@[simp] theorem failing_error : failing (⟨pod, es, .error cause⟩ :: visits) = 0 := by
  simp [failing, List.findIdx_cons, Except.isOk, Except.toBool]

@[simp] theorem failing_ok : failing (⟨pod, es, .ok new⟩ :: visits) = failing visits + 1 := by
  simp [failing, List.findIdx_cons, Except.isOk, Except.toBool]

theorem Request.worked_error :
    request.worked (network :: networks) (⟨pod, es, .error cause⟩ :: visits) = [] := by
  simp [worked]

theorem Request.worked_ok :
    request.worked (network :: networks) (⟨pod, es, .ok new⟩ :: visits)
      = (if request.Settled network pod then [] else [(network, ⟨pod, es, .ok new⟩)])
        ++ request.worked networks visits := by
  by_cases settled : request.Settled network pod <;> simp [worked, settled]

/-- The visits end with the first network that fails, and the result is its own. -/
theorem Round.reaches (h : Round answers retries request networks pod s visits r s') :
    visits.length = min (failing visits + 1) networks.length
      ∧ failing visits ≤ networks.length
      ∧ (r = .ok () ↔ failing visits = networks.length)
      ∧ ∀ v, visits[failing visits]? = some v → ∃ cause, v.result = .error cause ∧ r = .error cause := by
  induction h with
  | done => simp
  | @failed _ _ _ _ _ _ cause => simp
  | next course rest ih =>
    obtain ⟨length, bound, success, last⟩ := ih
    simp only [failing_ok, List.length_cons, List.getElem?_cons_succ]
    exact ⟨by omega, by omega, success.trans (by omega), last⟩

theorem Round.does (h : Round answers retries request networks pod s visits r s') :
    ∀ e ∈ networks.zip visits, request.Does e.1 e.2 := by
  induction h with
  | done => exact nofun
  | failed course => simpa using does_of_course course
  | next course rest ih =>
    rw [List.zip_cons_cons, List.forall_mem_cons]
    exact ⟨does_of_course course, ih⟩

end

/-- What was exchanged in all, network by network. Those before the first failure, without those that
were passed over, have one call and one event each, in their order, and at most one write each. The
one that failed may have one more call. -/
structure Request.Accounts (request : Request) (networks : List Selection) (visits : List Visit)
    (es : List Exchange) : Prop where
  calls : ∃ done last, calls es = done ++ last
    ∧ List.Forall₂ (fun e c => request.Calls e.1 e.2.pod c.1) (request.worked networks visits) done
    ∧ last.length ≤ 1
    ∧ ∀ c ∈ last, ∃ e, (networks.zip visits)[failing visits]? = some e
        ∧ request.Calls e.1 e.2.pod c.1
  events : List.Forall₂ (fun e event => request.Announces e.1 event) (request.worked networks visits)
    (events es)
  writes : (writes es).length ≤ (request.worked networks visits).length

section

variable {visits : List Visit} {new : Pod} {cause : Fault} {es' : List Exchange}

theorem Request.Does.accounts (h : request.Does network ⟨pod, es, .error cause⟩) :
    request.Accounts (network :: networks) [⟨pod, es, .error cause⟩] es := by
  cases h with
  | passes _ ok => cases ok
  | works _ ok => cases ok
  | fails _ _ called calling emitted written =>
    refine ⟨⟨[], _, rfl, ?_, called, fun c mem => ?_⟩, ?_, ?_⟩
    · rw [Request.worked_error]
      exact .nil
    · exact ⟨(network, ⟨pod, es, .error cause⟩), by simp, calling c mem⟩
    · rw [Request.worked_error, emitted]
      exact .nil
    · exact written ▸ Nat.zero_le _

theorem Request.Accounts.cons (h : request.Accounts networks visits es')
    (does : request.Does network ⟨pod, es, .ok new⟩) :
    request.Accounts (network :: networks) (⟨pod, es, .ok new⟩ :: visits) (es ++ es') := by
  obtain ⟨⟨done, last, called, calling, few, failed⟩, emitted, written⟩ := h
  have later : ∀ c ∈ last, ∃ e, ((network :: networks).zip (⟨pod, es, .ok new⟩ :: visits))[
      failing (⟨pod, es, .ok new⟩ :: visits)]? = some e ∧ request.Calls e.1 e.2.pod c.1 := by
    simpa using failed
  cases does with
  | passes settled _ quiet =>
    have same : request.worked (network :: networks) (⟨pod, es, .ok new⟩ :: visits)
        = request.worked networks visits := by
      rw [Request.worked_ok, if_pos settled, List.nil_append]
    obtain ⟨calls', events', writes'⟩ := quiet.before es'
    refine ⟨⟨done, last, calls'.trans called, same ▸ calling, few, later⟩, ?_, ?_⟩
    · rw [same, events']
      exact emitted
    · rw [same, writes']
      exact written
  | @works _ call _ unsettled _ called' calling' emitted' announcing written' =>
    have one : request.worked (network :: networks) (⟨pod, es, .ok new⟩ :: visits)
        = (network, ⟨pod, es, .ok new⟩) :: request.worked networks visits := by
      rw [Request.worked_ok, if_neg unsettled, List.singleton_append]
    refine ⟨⟨call :: done, last, ?_, ?_, few, later⟩, ?_, ?_⟩
    · rw [Exchange.calls_append, called', called]
      rfl
    · rw [one]
      exact .cons calling' calling
    · rw [one, Exchange.events_append, emitted']
      exact .cons announcing emitted
    · rw [one, Exchange.writes_append, List.length_append, List.length_cons]
      have written' : (Exchange.writes es).length ≤ 1 := written'
      omega
  | fails _ error => cases error

end

theorem Round.accounts {visits : List Visit} {r : Except Fault Unit}
    (h : Round answers retries request networks pod s visits r s') :
    request.Accounts networks visits (visits.flatMap Visit.exchanges) := by
  induction h with
  | done => exact ⟨⟨[], [], rfl, .nil, Nat.zero_le 1, nofun⟩, .nil, Nat.zero_le 0⟩
  | failed course => simpa using (does_of_course course).accounts
  | next course rest ih => exact ih.cons (does_of_course course)

/-! ## Whole deliveries -/

/-- If the pod of a request cannot be read, its delivery comes to nothing else. Otherwise networks are
visited in order, up to the first that fails or to the last. The delivery succeeds if none fails, and
ends with the failure of the first otherwise. Whatever is called, emitted or written is accounted for
by the networks before that failure, but for one call of the network that failed. -/
theorem delivery_ends_at_the_first_failure {r : Except Fault Unit}
    (h : Attempt.Course answers (reconcile retries request) s es r s') :
    (∃ cause, r = .error cause ∧ es = [⟨.getPod request.pod, .error cause⟩])
      ∨ ∃ (pod : Pod) (m : σ) (visits : List Visit),
          es = ⟨.getPod request.pod, .ok pod⟩ :: visits.flatMap Visit.exchanges
            ∧ Round answers retries request request.networks pod m visits r s'
            ∧ visits.length = min (failing visits + 1) request.networks.length
            ∧ failing visits ≤ request.networks.length
            ∧ (r = .ok () ↔ failing visits = request.networks.length)
            ∧ (∀ v, visits[failing visits]? = some v →
                ∃ cause, v.result = .error cause ∧ r = .error cause)
            ∧ (∀ e ∈ request.networks.zip visits, request.Does e.1 e.2)
            ∧ request.Accounts request.networks visits es := by
  obtain ⟨cause, rfl, read⟩ | ⟨es₁, pod, m, es₂, rfl, read, h₁⟩ := Attempt.course_bind.1 h
  · obtain ⟨rfl, -⟩ := course_ask.1 (Attempt.course_reply.1 read)
    exact .inl ⟨cause, rfl, rfl⟩
  obtain ⟨rfl, -⟩ := course_ask.1 (Attempt.course_reply.1 read)
  have works : ∃ r', Attempt.Course answers (workOff retries request request.networks pod) m es₂ r' s'
      ∧ r = r'.map fun _ => () := by
    obtain ⟨cause, rfl, works⟩ | ⟨es₃, final, m', es₄, rfl, works, h₂⟩ := Attempt.course_bind.1 h₁
    · exact ⟨_, works, rfl⟩
    · obtain ⟨rfl, rfl, rfl⟩ := Attempt.course_pure.1 h₂
      exact ⟨_, by simpa using works, rfl⟩
  obtain ⟨r', works, rfl⟩ := works
  obtain ⟨visits, round, rfl⟩ := round_of_course works
  obtain ⟨length, bound, success, last⟩ := round.reaches
  -- to read the pod is neither a call nor an event nor a write
  obtain ⟨called, emitted, written⟩ := round.accounts
  exact .inr ⟨pod, m, visits, rfl, round, length, bound, success, last, round.does, called, emitted,
    written⟩

/-- Surroundings where only the network `far` has no definition. -/
private def withoutFar : (q : Action) → PodStore → q.Answer × PodStore :=
  PodStore.respond
    (fun key => if key.name = "far" then .error (.notFound .definition key)
      else .ok ⟨key.space, key.name, "\x7b\x7d"⟩)
    (fun call => ⟨some ⟨"", [⟨call.interface, "", ""⟩], [], [], .empty⟩⟩)

private theorem answers_withoutFar (q : Action) (s : PodStore) :
    s.Answers ⟨q, (withoutFar q s).1⟩ (withoutFar q s).2 :=
  PodStore.answers_respond _ _ q s

/-- Of four networks the first is passed over, the second attached, the third fails, and the last is
not reached. -/
theorem failure_keeps_the_last_network_from_being_visited :
    let at_ (name interface : String) : Selection := ⟨name, "ns1", some interface, [], none, [], none⟩
    let request : Request :=
      ⟨⟨"ns1", "pod1"⟩, .add, [at_ "old" "eth0", at_ "net" "eth1", at_ "far" "eth2", at_ "net" "eth3"], ""⟩
    ∃ (s s' : PodStore) (es : List Exchange) (cause : Fault) (visits : List Visit),
      Attempt.Course PodStore.Answers (reconcile 5 request) s es (.error cause) s'
        ∧ (calls es).map (·.1.interface) = ["eth1"] ∧ (events es).length = 1
        ∧ (request.worked request.networks visits).length = 1
        ∧ failing visits < 4 ∧ visits.length = failing visits + 1 := by
  intro at_ request
  let s := (PodStore.empty.apply ⟨"ns1", "pod1", "u1", 1, (∅ : Dict String).insert statusKey
    "[\x7b\"name\":\"ns1/old\",\"interface\":\"eth0\"\x7d]", [⟨"c", "docker://abc"⟩]⟩).2
  let program := (reconcile 5 request).run
  let es := program.exchanges withoutFar s
  have run := Program.course_run answers_withoutFar program s
  have called : (calls es).map (·.1.interface) = ["eth1"] := by decide +kernel
  have once : (events es).length = 1 := by decide +kernel
  obtain ⟨cause, failed⟩ : ∃ cause, (program.run withoutFar s).1 = .error cause := by
    cases result : (program.run withoutFar s).1 with
    | error cause => exact ⟨cause, rfl⟩
    | ok =>
      have wrong : (program.run withoutFar s).1.isOk = false := by decide +kernel
      rw [result] at wrong
      cases wrong
  rw [failed] at run
  obtain ⟨_, -, read⟩ | ⟨pod, m, visits, -, -, length, bound, success, -, -, accounts⟩ :=
    delivery_ends_at_the_first_failure run
  · have none : events es = [] := congrArg events read
    rw [none] at once
    cases once
  · have reached : failing visits ≠ 4 := fun all => nomatch success.2 all
    refine ⟨s, _, es, cause, visits, run, called, once, accounts.events.length_eq.trans once, ?_⟩
    have length : visits.length = min (failing visits + 1) 4 := length
    have bound : failing visits ≤ 4 := bound
    omega

end NetAttach
