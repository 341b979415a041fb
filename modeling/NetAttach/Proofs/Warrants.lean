-- SUMMARY: What warrants each action of a request: the pod that it holds, and what was done for it before.
import NetAttach.Proofs.Undisturbed

/-!
# Warrants

While a request is worked off, it holds the pod that a store answered with last. Every
action after that is warranted by this pod and by what was done before: an attachment is
detached if it is the one to which a network of the request refers on the pod held, and it
is dropped from the status of the pod held after the plugin has detached it, and once.
Whatever the answers are, reconciliation does nothing without a warrant.
-/

namespace NetAttach

open Program

/-! ## The pod that is held -/

namespace Exchange

/-- The pod in the answer of a store. -/
def brought? : Exchange → Option Pod
  | ⟨.getPod _, .ok pod⟩ => some pod
  | ⟨.updatePod _, .ok pod⟩ => some pod
  | _ => none

/-- The pod that was brought last. -/
def held? (es : List Exchange) : Option Pod := (es.filterMap brought?).getLast?

/-- Definitions were asked for and notices given, and nothing else. -/
def Aside (es : List Exchange) : Prop :=
  ∀ e ∈ es, (∃ key, e.1 = .getDefinition key) ∨ ∃ n, e.1 = .notify n

variable {past es : List Exchange} {pod : Pod}

theorem brings_of_held? (h : held? past = some pod) : ∃ e ∈ past, Brings e pod := by
  obtain ⟨e, mem, brought⟩ := List.mem_filterMap.1 (List.mem_of_getLast? h)
  refine ⟨e, mem, ?_⟩
  obtain ⟨action, answer⟩ := e
  cases action with
  | getPod key =>
    cases answer with
    | error => cases brought
    | ok => cases brought; exact .get key pod
  | updatePod written =>
    cases answer with
    | error => cases brought
    | ok => cases brought; exact .update written pod
  | _ => cases brought

theorem aside_nil : Aside [] := nofun

theorem aside_notify (n : Notice) : Aside [⟨.notify n, ()⟩] := by
  simp [Aside]

/-- A pod that was brought is held. -/
theorem held?_snoc {e : Exchange} (brought : e.brought? = some pod) : held? (past ++ [e]) = some pod := by
  simp [held?, brought]

theorem held?_snoc_of_none {e : Exchange} (brought : e.brought? = none) :
    held? (past ++ [e]) = held? past := by
  simp [held?, brought]

theorem held?_aside (h : Aside es) : held? (past ++ es) = held? past := by
  have brought : es.filterMap brought? = [] := List.filterMap_eq_nil_iff.2 fun ⟨_, _⟩ mem => by
    obtain ⟨key, rfl⟩ | ⟨n, rfl⟩ := h _ mem <;> rfl
  simp [held?, brought]

end Exchange

open Exchange (calls writes held? held?_snoc held?_snoc_of_none held?_aside Aside)

/-! ## Changes of a list of attachments -/

namespace Attachment

/-- What is recorded anew has an interface of its own. -/
theorem record_spec {recorded updated : List Attachment} {attached : Attachment}
    (h : record recorded attached = .ok updated) :
    updated = recorded ++ [attached] ∧ attached.interface ≠ ""
      ∧ ∀ b ∈ recorded, b.interface ≠ attached.interface := by
  refine ⟨record_eq_ok h, ?_⟩
  unfold record at h
  split at h
  · cases h
  · next named =>
    split at h
    · cases h
    · next new => exact ⟨named, by simpa using new⟩

theorem drop?_eq_none {recorded : List Attachment} {attached : Attachment}
    (h : drop? recorded attached = none) :
    ∀ b ∈ recorded, ¬(b.network = attached.network ∧ b.interface = attached.interface) := by
  unfold drop? at h
  dsimp only at h
  split at h
  · cases h
  · next none => simpa using none

end Attachment

/-! ## What is warranted -/

namespace Request

/-- A network of a request refers to an attachment on the pod that is held: it is recorded for the
network, with the interface that the network asks for. If the network asks for none, it is the first
of those whose interface no selection of the pod asks for. -/
structure Picks (request : Request) (past : List Exchange) (pod : Pod) (network : Selection)
    (attached : Attachment) : Prop where
  holds : held? past = some pod
  selected : network ∈ request.networks
  own : attached.network = network.network
  asked : ∀ i, network.interface? = some i → attached.interface = i
  free : network.interface? = none → ∀ t ∈ pod.selections, t.interface? ≠ some attached.interface
  first : ∃ front back, Attachment.ofPod pod = .ok (front ++ attached :: back)
    ∧ (network.interface? = none → ∀ b ∈ front, b.network = network.network →
        ∃ t ∈ pod.selections, t.interface? = some b.interface)

/-- The plugin has detached an attachment that was picked, was not called since, and these writes
were accepted since. -/
def Detaching (request : Request) (past : List Exchange) (network : Selection)
    (attached : Attachment) (written : List Pod) : Prop :=
  ∃ before pod definition response since,
    past = before ++ ⟨.invoke (pluginCall .del request pod network attached.interface definition),
        .ok response⟩ :: since
      ∧ request.Picks before pod network attached ∧ calls since = [] ∧ writes since = written

/-- No attachment is recorded with the network and the interface of the given one. -/
def Gone (attached : Attachment) (pod : Pod) : Prop :=
  ∃ recorded, Attachment.ofPod pod = .ok recorded
    ∧ ∀ b ∈ recorded, ¬(b.network = attached.network ∧ b.interface = attached.interface)

/-- What an action of a request is warranted by. -/
inductive Warrants (request : Request) (past : List Exchange) : Action → Prop where
  | read (key : ObjectKey) : Warrants request past (.getPod key)
  | define (key : ObjectKey) : Warrants request past (.getDefinition key)
  | tell (n : Notice) : Warrants request past (.notify n)
  /-- A network is to be attached. -/
  | make {pod : Pod} {network : Selection} {interface : String} {definition : Definition}
    (add : request.direction = .add) (selected : network ∈ request.networks)
    (holds : held? past = some pod) :
    Warrants request past (.invoke (pluginCall .add request pod network interface definition))
  /-- What the plugin made is new to the pod held. -/
  | record {pod : Pod} {network : Selection} {result : Plugin.Result} {recorded : List Attachment}
    (add : request.direction = .add) (selected : network ∈ request.networks)
    (holds : held? past = some pod) (status : Attachment.ofPod pod = .ok recorded)
    (named : (Attachment.ofResult network result).interface ≠ "")
    (new : ∀ b ∈ recorded, b.interface ≠ (Attachment.ofResult network result).interface) :
    Warrants request past (.updatePod (pod.annotate statusKey
      (Attachment.renderList (recorded ++ [Attachment.ofResult network result]))))
  | announce (add : request.direction = .add) (event : Event) : Warrants request past (.emit event)
  /-- An attachment is picked to be detached. -/
  | undo {pod : Pod} {network : Selection} {attached : Attachment} {definition : Definition}
    (remove : request.direction = .remove) (picks : request.Picks past pod network attached) :
    Warrants request past
      (.invoke (pluginCall .del request pod network attached.interface definition))
  /-- What the plugin has detached is recorded on the pod held. -/
  | drop {pod : Pod} {network : Selection} {attached b : Attachment} {front back : List Attachment}
    (remove : request.direction = .remove) (detaching : request.Detaching past network attached [])
    (holds : held? past = some pod) (status : Attachment.ofPod pod = .ok (front ++ b :: back))
    (network_eq : b.network = attached.network) (interface_eq : b.interface = attached.interface) :
    Warrants request past
      (.updatePod (pod.annotate statusKey (Attachment.renderList (front ++ back))))
  /-- What the plugin has detached was dropped by one write, or is not recorded on the pod held. -/
  | report {network : Selection} {attached : Attachment} (remove : request.direction = .remove)
    (dropped : (∃ new, request.Detaching past network attached [new])
      ∨ ∃ pod, request.Detaching past network attached [] ∧ held? past = some pod
        ∧ Gone attached pod) :
    Warrants request past (.emit ⟨request.pod, "RemovedInterface",
      removedText request.pod attached.interface network.name⟩)

variable {request : Request} {past es : List Exchange} {pod : Pod} {network : Selection}
  {attached : Attachment} {written : List Pod} {recorded : List Attachment}

theorem Detaching.append (h : request.Detaching past network attached written)
    (uncalled : calls es = []) : request.Detaching (past ++ es) network attached (written ++ writes es) := by
  obtain ⟨before, pod, definition, response, since, rfl, picks, silent, rfl⟩ := h
  exact ⟨before, pod, definition, response, since ++ es, by simp, picks, by simp [silent, uncalled],
    by simp⟩

/-- What is being detached was attached for a network of the request. -/
theorem Detaching.selected (h : request.Detaching past network attached written) :
    network ∈ request.networks ∧ attached.network = network.network := by
  obtain ⟨_, _, _, _, _, _, picks, _⟩ := h
  exact ⟨picks.selected, picks.own⟩

/-- What is found for a network on the pod held is picked. -/
theorem picks_of_find? (holds : held? past = some pod) (selected : network ∈ request.networks)
    (status : Attachment.ofPod pod = .ok recorded)
    (found : Attachment.find? recorded network pod.selections = some attached) :
    request.Picks past pod network attached := by
  obtain ⟨refers, front, back, rfl, none⟩ := List.find?_eq_some_iff_append.1 found
  obtain ⟨own, asks⟩ := Attachment.matchesSelection_iff.1 refers
  refine ⟨holds, selected, own, fun i asked => ?_, fun unasked => ?_, front, back, status, ?_⟩
  · obtain ⟨j, asked', same⟩ | ⟨unasked, -⟩ := asks
    · cases asked.symm.trans asked'
      exact same
    · cases asked.symm.trans unasked
  · obtain ⟨j, asked', -⟩ | ⟨-, free⟩ := asks
    · cases unasked.symm.trans asked'
    · exact free
  · intro unasked b mem own'
    have passed := mt Attachment.matchesSelection_iff.2 (by simpa using none b mem)
    refine Classical.byContradiction fun unclaimed => passed ⟨own', .inr ⟨unasked, ?_⟩⟩
    exact fun t mem claims => unclaimed ⟨t, mem, claims⟩

/-! ## Parts of reconciliation -/

theorem findAttachment_warrants :
    (findAttachment pod recorded network).Keeps request.Warrants
      (fun past' found => (∃ es, past' = past ++ es ∧ Aside es)
        ∧ found = Attachment.find? recorded network pod.selections) past := by
  unfold findAttachment currentSelections Pod.selections
  split
  · next readable =>
    rw [readable]
    exact ⟨⟨[], (List.append_nil past).symm, Exchange.aside_nil⟩, rfl⟩
  · next unreadable =>
    rw [unreadable]
    exact ⟨.tell _, fun _ => ⟨⟨_, rfl, Exchange.aside_notify _⟩, rfl⟩⟩

theorem getDefinition_warrants :
    (getDefinition network).Keeps request.Warrants
      (fun past' _ => ∃ es, past' = past ++ es ∧ Aside es) past := by
  unfold getDefinition
  refine Attempt.keeps_bind (Attempt.keeps_ask (.define _)) fun es r asked => ?_
  have asked := List.append_cancel_left asked
  subst asked
  cases r with
  | ok definition => exact Attempt.keeps_pure ⟨_, rfl, by simp [Aside]⟩
  | error cause =>
    refine Attempt.keeps_bind (m := fun _ _ => True) (Attempt.keeps_lift ⟨.tell _, fun _ => trivial⟩)
      fun _ _ _ => Attempt.keeps_throw _

/-- What is true of the pod held while a change of its status is tried, and what once that is done. -/
structure Tries (request : Request) (change : StatusChange)
    (ready done : List Exchange → Pod → Prop) : Prop where
  computes : ∀ {past pod recorded}, ready past pod → Attachment.ofPod pod = .ok recorded →
    (change pod recorded).Keeps request.Warrants (fun past' r => match r with
      | none => done past' pod
      | some updated => ready past' pod ∧ request.Warrants past'
          (.updatePod (pod.annotate statusKey (Attachment.renderList updated)))) past
  refused : ∀ {past pod written cause}, ready past pod →
    ready (past ++ [⟨.updatePod written, .error cause⟩]) pod
  told : ∀ {past pod n}, ready past pod → ready (past ++ [⟨.notify n, ()⟩]) pod
  reread : ∀ {past pod key present}, ready past pod →
    ready (past ++ [⟨.getPod key, .ok present⟩]) present
  stored : ∀ {past pod written new}, ready past pod →
    done (past ++ [⟨.updatePod written, .ok new⟩]) new

theorem Tries.keeps {change : StatusChange} {ready done : List Exchange → Pod → Prop}
    (h : request.Tries change ready done) (limit left : Nat) {key : ObjectKey} (start : ready past pod) :
    (rewriteStatus limit key change left pod).Keeps request.Warrants done past := by
  induction left using Nat.strongRecOn generalizing past pod with
  | ind left ih =>
    unfold rewriteStatus
    refine Attempt.keeps_bind (m := fun past' r => past' = past ∧ Attachment.ofPod pod = .ok r)
      (Attempt.keeps_ofExcept fun a status => ⟨rfl, status⟩) fun es recorded read => ?_
    obtain ⟨same, status⟩ := read
    rw [same]
    refine Attempt.keeps_bind (h.computes start status) fun es r computed => ?_
    cases r with
    | none => exact Attempt.keeps_pure computed
    | some updated =>
      obtain ⟨ready', warranted⟩ := computed
      refine Attempt.keeps_bind (Attempt.keeps_ask warranted) fun es' answer written => ?_
      rw [written]
      split
      · exact Attempt.keeps_pure (h.stored ready')
      · split
        · exact Attempt.keeps_throw _
        · next left =>
          refine Attempt.keeps_bind (m := fun past' _ => ready past' pod)
            (Attempt.keeps_lift ⟨.tell _, fun _ => h.told (h.refused ready')⟩) fun es₂ _ ready₂ => ?_
          refine Attempt.keeps_bind (m := ready) (Attempt.keeps_reply ⟨.read _, ?_⟩)
            fun es₃ present ready₃ => ih left (Nat.lt_succ_self _) ready₃
          rintro r present rfl
          exact h.reread ready₂
      · exact Attempt.keeps_throw _
      · exact Attempt.keeps_throw _

theorem tries_recordNew (add : request.direction = .add) (selected : network ∈ request.networks)
    (result : Plugin.Result) :
    request.Tries (recordNew network (Attachment.ofResult network result))
      (fun past pod => held? past = some pod) (fun past pod => held? past = some pod) where
  computes := by
    intro past pod recorded holds status
    unfold recordNew
    refine Attempt.keeps_bind (Attempt.keeps_lift findAttachment_warrants)
      fun es found ⟨⟨es', same, aside⟩, _⟩ => ?_
    obtain rfl := List.append_cancel_left same
    have holds' := (held?_aside aside).trans holds
    cases found with
    | some attached => exact Attempt.keeps_pure holds'
    | none =>
      refine Attempt.keeps_bind (m := fun past' updated => past' = past ++ es ∧
        Attachment.record recorded (Attachment.ofResult network result) = .ok updated)
        (Attempt.keeps_ofExcept fun updated h => ⟨rfl, h⟩) fun es₂ updated ⟨same, h⟩ => ?_
      obtain ⟨rfl, named, new⟩ := Attachment.record_spec h
      rw [same]
      exact Attempt.keeps_pure ⟨holds', .record add selected holds' status named new⟩
  refused holds := (held?_snoc_of_none rfl).trans holds
  told holds := (held?_snoc_of_none rfl).trans holds
  reread _ := held?_snoc rfl
  stored _ := held?_snoc rfl

/-- An attachment that the plugin has detached was dropped from the pod held, or is gone from it. -/
def Detached (request : Request) (network : Selection) (attached : Attachment)
    (past : List Exchange) (pod : Pod) : Prop :=
  held? past = some pod ∧ ((∃ new, request.Detaching past network attached [new])
    ∨ (request.Detaching past network attached [] ∧ Gone attached pod))

theorem tries_dropOld (remove : request.direction = .remove) :
    request.Tries (dropOld attached)
      (fun past pod => held? past = some pod ∧ request.Detaching past network attached [])
      (request.Detached network attached) where
  computes := by
    rintro past pod recorded ⟨holds, detaching⟩ status
    refine Attempt.keeps_pure ?_
    cases dropped : Attachment.drop? recorded attached with
    | none => exact ⟨holds, .inr ⟨detaching, recorded, status, Attachment.drop?_eq_none dropped⟩⟩
    | some updated =>
      obtain ⟨front, b, back, rfl, rfl, network_eq, interface_eq⟩ :=
        Attachment.drop?_eq_some dropped
      exact ⟨⟨holds, detaching⟩, .drop remove detaching holds status network_eq interface_eq⟩
  refused := fun ⟨holds, detaching⟩ => ⟨(held?_snoc_of_none rfl).trans holds, detaching.append rfl⟩
  told := fun ⟨holds, detaching⟩ => ⟨(held?_snoc_of_none rfl).trans holds, detaching.append rfl⟩
  reread := fun ⟨_, detaching⟩ => ⟨held?_snoc rfl, detaching.append rfl⟩
  stored := fun ⟨_, detaching⟩ => ⟨held?_snoc rfl, .inl ⟨_, detaching.append rfl⟩⟩

/-! ## Reconciliation -/

theorem attach_warrants (retries : Nat) (add : request.direction = .add)
    (selected : network ∈ request.networks) (holds : held? past = some pod) :
    (attach retries request pod network).Keeps request.Warrants
      (fun past pod => held? past = some pod) past := by
  unfold attach
  refine Attempt.keeps_bind (m := fun past' _ => past' = past)
    (Attempt.keeps_ofExcept fun _ _ => rfl) fun es recorded same => ?_
  rw [same]
  refine Attempt.keeps_bind (Attempt.keeps_lift findAttachment_warrants)
    fun es₁ found ⟨⟨es', same, aside⟩, _⟩ => ?_
  obtain rfl := List.append_cancel_left same
  have holds := (held?_aside aside).trans holds
  split
  · exact Attempt.keeps_pure holds
  split
  · exact Attempt.keeps_throw _
  refine Attempt.keeps_bind getDefinition_warrants fun es₂ definition ⟨es', same, aside⟩ => ?_
  obtain rfl := List.append_cancel_left same
  have holds := (held?_aside aside).trans holds
  refine Attempt.keeps_bind (m := fun past _ => held? past = some pod)
    (Attempt.keeps_reply ⟨.make add selected holds, fun _ _ _ => (held?_snoc_of_none rfl).trans holds⟩)
    fun es₃ response holds => ?_
  split
  · exact Attempt.keeps_throw _
  · next result _ =>
    refine Attempt.keeps_bind ((tries_recordNew add selected result).keeps _ _ holds)
      fun es₄ new holds => ?_
    refine Attempt.keeps_bind (m := fun past _ => held? past = some new)
      (Attempt.keeps_lift ⟨.announce add _, fun _ => (held?_snoc_of_none rfl).trans holds⟩)
      fun es₅ _ holds => Attempt.keeps_pure holds

theorem detach_warrants (retries : Nat) (remove : request.direction = .remove)
    (selected : network ∈ request.networks) (holds : held? past = some pod) :
    (detach retries request pod network).Keeps request.Warrants
      (fun past pod => held? past = some pod) past := by
  unfold detach
  refine Attempt.keeps_bind
    (m := fun past' recorded => past' = past ∧ Attachment.ofPod pod = .ok recorded)
    (Attempt.keeps_ofExcept fun _ status => ⟨rfl, status⟩) fun es recorded ⟨same, status⟩ => ?_
  rw [same]
  refine Attempt.keeps_bind (Attempt.keeps_lift findAttachment_warrants)
    fun es₁ found ⟨⟨es', same, aside⟩, hfound⟩ => ?_
  obtain rfl := List.append_cancel_left same
  have holds := (held?_aside aside).trans holds
  cases found with
  | none => exact Attempt.keeps_pure holds
  | some attached =>
    refine Attempt.keeps_bind getDefinition_warrants fun es₂ definition ⟨es', same, aside⟩ => ?_
    obtain rfl := List.append_cancel_left same
    have holds := (held?_aside aside).trans holds
    have picks := picks_of_find? holds selected status hfound.symm
    -- the call that is answered begins the detaching
    refine Attempt.keeps_bind
      (m := fun past _ => held? past = some pod ∧ request.Detaching past network attached [])
      (Attempt.keeps_reply ⟨.undo remove picks, ?_⟩) fun es₃ _ ready => ?_
    · rintro r response rfl
      exact ⟨(held?_snoc_of_none rfl).trans holds, _, pod, definition, response, [], rfl, picks, rfl, rfl⟩
    refine Attempt.keeps_bind ((tries_dropOld remove).keeps _ _ ready)
      fun es₄ new ⟨holds, dropped⟩ => ?_
    have report := Warrants.report remove (dropped.imp_right fun ⟨detaching, gone⟩ =>
      ⟨new, detaching, holds, gone⟩)
    refine Attempt.keeps_bind (m := fun past _ => held? past = some new)
      (Attempt.keeps_lift ⟨report, fun _ => (held?_snoc_of_none rfl).trans holds⟩)
      fun es₅ _ holds => Attempt.keeps_pure holds

theorem workOff_warrants {networks : List Selection} (retries : Nat)
    (selected : ∀ network ∈ networks, network ∈ request.networks) (holds : held? past = some pod) :
    (workOff retries request networks pod).Keeps request.Warrants
      (fun past pod => held? past = some pod) past := by
  induction networks generalizing past pod with
  | nil => exact Attempt.keeps_pure holds
  | cons network networks ih =>
    have one : network ∈ request.networks := selected network (by simp)
    rw [workOff_cons]
    refine Attempt.keeps_bind (m := fun past pod => held? past = some pod) ?_
      fun es new holds => ih (fun n mem => selected n (List.mem_cons_of_mem _ mem)) holds
    unfold workOne
    split
    · next add => exact attach_warrants retries add one holds
    · next remove => exact detach_warrants retries remove one holds

/-- Every action of a request is warranted by what was done before it. -/
theorem reconcile_warrants (retries : Nat) :
    (reconcile retries request).Keeps request.Warrants (fun _ _ => True) [] := by
  refine Attempt.keeps_bind (m := fun past pod => held? past = some pod)
    (Attempt.keeps_reply ⟨.read _, ?_⟩) fun es pod holds => ?_
  · rintro r pod rfl
    rfl
  · exact Attempt.keeps_bind (workOff_warrants retries (fun _ mem => mem) holds)
      fun _ _ _ => Attempt.keeps_pure trivial

end Request

end NetAttach
