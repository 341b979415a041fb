-- SUMMARY: A request touches its own pod only, and writes a pod as it was last learned with one change of its status.
import NetAttach.Proofs.Attaching
import NetAttach.Proofs.Controller

/-!
# What reconciliation asks for

Whatever the answers are, every action of a request is about the pod that the request
names, as long as stores answer with the pods that they were asked for. And every pod
that is written is one that a store answered with, with nothing but its status changed.
-/

namespace NetAttach

open Program

/-- The pod that an action reads or writes, attaches a network to, or tells about. -/
def Action.subject? : Action → Option ObjectKey
  | .getPod key => some key
  | .updatePod pod => some pod.key
  | .invoke call => some ⟨call.podSpace, call.podName⟩
  | .emit event => some event.pod
  | .getDefinition _ | .getNetns _ | .notify _ | .enqueue _ => none

/-- To drop an attachment is to leave out one with its network and its interface. -/
theorem Attachment.drop?_eq_some {recorded updated : List Attachment} {a : Attachment}
    (h : drop? recorded a = some updated) :
    ∃ front b back, recorded = front ++ b :: back ∧ updated = front ++ back
      ∧ b.network = a.network ∧ b.interface = a.interface := by
  unfold drop? at h
  dsimp only at h
  split at h
  · next some =>
    cases h
    obtain ⟨a', ha, same⟩ := List.any_eq_true.1 some
    obtain ⟨b, front, back, -, hb, rfl, hdrop⟩ := List.exists_of_eraseP
      (p := fun b => b.network == a.network && b.interface == a.interface) ha same
    simp only [Bool.and_eq_true, beq_iff_eq] at hb
    exact ⟨front, b, back, rfl, hdrop, hb⟩
  · cases h

/-! ## Learned pods -/

namespace Exchange

/-- A store answers with a pod. -/
inductive Brings : Exchange → Pod → Prop where
  | get (key : ObjectKey) (pod : Pod) : Brings ⟨.getPod key, .ok pod⟩ pod
  | update (written pod : Pod) : Brings ⟨.updatePod written, .ok pod⟩ pod

/-- A pod in the answer is the one that was asked for or written. -/
def Honest (e : Exchange) : Prop := ∀ pod, Brings e pod → e.1.subject? = some pod.key

end Exchange

/-- A pod that was learned from a store while a request was worked off. -/
structure Request.Knows (request : Request) (past : List Exchange) (pod : Pod) : Prop where
  learned : ∃ e ∈ past, Exchange.Brings e pod
  own : (∀ e ∈ past, Exchange.Honest e) → pod.key = request.pod

namespace Request

variable {request : Request} {past : List Exchange} {pod : Pod}

theorem Knows.append (h : request.Knows past pod) (es : List Exchange) :
    request.Knows (past ++ es) pod := by
  obtain ⟨⟨e, he, brings⟩, own⟩ := h
  refine ⟨⟨e, List.mem_append_left es he, brings⟩, fun honest => own fun e he => ?_⟩
  exact honest e (List.mem_append_left es he)

/-- A pod is known once a store has answered a question about the own pod with it. -/
theorem Knows.of_answer {e : Exchange} (brings : Exchange.Brings e pod)
    (own : (∀ e ∈ past, Exchange.Honest e) → ∀ key, e.1.subject? = some key → key = request.pod) :
    request.Knows (past ++ [e]) pod := by
  refine ⟨⟨e, by simp, brings⟩, fun honest => ?_⟩
  refine own (fun e he => honest e (List.mem_append_left _ he)) _ ?_
  exact honest e (by simp) pod brings

/-! ## Changes of the status -/

/-- A list of attachments with one more at the end, or with one less. -/
inductive Alters (request : Request) : List Attachment → List Attachment → Prop where
  | append {recorded : List Attachment} {network : Selection} (result : Plugin.Result)
    (add : request.direction = .add) (selected : network ∈ request.networks) :
    Alters request recorded (recorded ++ [Attachment.ofResult network result])
  | drop {front back : List Attachment} {attached : Attachment} {network : Selection}
    (remove : request.direction = .remove) (selected : network ∈ request.networks)
    (own : attached.network = network.network) :
    Alters request (front ++ attached :: back) (front ++ back)

/-- A pod with one change of its status. -/
def Rewrites (request : Request) (pod written : Pod) : Prop :=
  ∃ recorded updated, Attachment.ofPod pod = .ok recorded ∧ request.Alters recorded updated
    ∧ written = pod.annotate statusKey (Attachment.renderList updated)

/-- An action is in order after what was done before it. -/
structure Proper (request : Request) (past : List Exchange) (action : Action) : Prop where
  subject : (∀ e ∈ past, Exchange.Honest e) →
    ∀ key, action.subject? = some key → key = request.pod
  written : ∀ written, action = .updatePod written →
    ∃ pod, request.Knows past pod ∧ request.Rewrites pod written

/-- An action without a pod is in order. -/
theorem Proper.of_none {action : Action} (h : action.subject? = none) :
    request.Proper past action := by
  refine ⟨fun _ key hk => ?_, fun written hw => ?_⟩
  · rw [h] at hk
    cases hk
  · subst hw
    cases h

theorem Proper.of_own {action : Action}
    (h : (∀ e ∈ past, Exchange.Honest e) → action.subject? = some request.pod)
    (unwritten : ∀ written, action ≠ .updatePod written) : request.Proper past action := by
  refine ⟨fun honest key hk => ?_, fun written hw => absurd hw (unwritten written)⟩
  exact (Option.some.inj ((h honest).symm.trans hk)).symm

/-- Whatever is done to a known pod, other than to write it, is in order. -/
theorem Knows.proper (known : request.Knows past pod) (action : Action)
    (about : action.subject? = some pod.key) (unwritten : ∀ written, action ≠ .updatePod written) :
    request.Proper past action :=
  .of_own (fun honest => known.own honest ▸ about) unwritten

theorem Proper.of_rewrite {written : Pod} (known : request.Knows past pod)
    (h : request.Rewrites pod written) : request.Proper past (.updatePod written) := by
  refine ⟨fun honest key hk => ?_, fun w hw => ?_⟩
  · obtain ⟨recorded, updated, -, -, rfl⟩ := h
    exact (Option.some.inj hk).symm.trans (known.own honest)
  · cases hw
    exact ⟨pod, known, h⟩

/-! ## Parts of reconciliation -/

/-- A change of the status alters what is recorded as the request says. -/
def Changes (request : Request) (change : StatusChange) : Prop :=
  ∀ past pod recorded, (change pod recorded).Keeps request.Proper
    (fun _ r => ∀ updated, r = some updated → request.Alters recorded updated) past

theorem rewriteStatus_keeps {change : StatusChange} (hchange : request.Changes change)
    (limit left : Nat) {first : Pod} (begun : request.Knows past first) (known : request.Knows past pod) :
    (rewriteStatus limit first.key change left pod).Keeps request.Proper request.Knows past := by
  induction left using Nat.strongRecOn generalizing past pod with
  | ind left ih =>
    unfold rewriteStatus
    refine Attempt.keeps_bind (m := fun past' r => past' = past ∧ Attachment.ofPod pod = .ok r)
      (Attempt.keeps_ofExcept fun a ha => ⟨rfl, ha⟩) fun es recorded h => ?_
    obtain ⟨hpast, hrecorded⟩ := h
    rw [hpast]
    refine Attempt.keeps_bind (hchange _ pod recorded) fun es r hr => ?_
    have begun := begun.append es
    have known := known.append es
    cases r with
    | none => exact Attempt.keeps_pure known
    | some updated =>
      have hw : request.Rewrites pod (pod.annotate statusKey (Attachment.renderList updated)) :=
        ⟨recorded, updated, hrecorded, hr updated rfl, rfl⟩
      have proper := Proper.of_rewrite known hw
      refine Attempt.keeps_bind (Attempt.keeps_ask proper) fun es' answer h => ?_
      split
      · next stored =>
        rw [h]
        exact Attempt.keeps_pure (.of_answer (.update _ stored) proper.subject)
      · next key version =>
        split
        · exact Attempt.keeps_throw _
        · next left =>
          refine Attempt.keeps_bind (m := fun _ _ => True)
            (Attempt.keeps_lift ⟨.of_none rfl, fun _ => trivial⟩) fun es₂ _ _ => ?_
          have begun := (begun.append es').append es₂
          have read := begun.proper (.getPod first.key) rfl nofun
          refine Attempt.keeps_bind (m := request.Knows) (Attempt.keeps_reply ⟨read, ?_⟩)
            fun es₃ present known => ih left (Nat.lt_succ_self _) (begun.append es₃) known
          rintro r present rfl
          exact .of_answer (.get _ present) read.subject
      · exact Attempt.keeps_throw _
      · exact Attempt.keeps_throw _

theorem findAttachment_keeps (recorded : List Attachment) (network : Selection) :
    (findAttachment pod recorded network).Keeps request.Proper
      (fun _ r => ∀ attached, r = some attached → attached.network = network.network) past := by
  have found : ∀ all attached, Attachment.find? recorded network all = some attached →
      attached.network = network.network := fun _ _ => Attachment.network_of_find?
  unfold findAttachment currentSelections
  split
  · exact found _
  · exact ⟨.of_none rfl, fun _ => found _⟩

theorem getDefinition_keeps (network : Selection) :
    (getDefinition network).Keeps request.Proper (fun _ _ => True) past := by
  unfold getDefinition
  refine Attempt.keeps_bind (Attempt.keeps_ask (.of_none rfl)) fun es r _ => ?_
  cases r with
  | ok definition => exact Attempt.keeps_pure trivial
  | error cause =>
    refine Attempt.keeps_bind (m := fun _ _ => True)
      (Attempt.keeps_lift ⟨.of_none rfl, fun _ => trivial⟩) fun _ _ _ => Attempt.keeps_throw _

theorem recordNew_changes {network : Selection} (result : Plugin.Result)
    (add : request.direction = .add) (selected : network ∈ request.networks) :
    request.Changes (recordNew network (Attachment.ofResult network result)) := by
  intro past pod recorded
  unfold recordNew
  refine Attempt.keeps_bind (Attempt.keeps_lift (findAttachment_keeps recorded network))
    fun es found _ => ?_
  cases found with
  | some attached => exact Attempt.keeps_pure nofun
  | none =>
    refine Attempt.keeps_bind (m := fun _ => request.Alters recorded)
      (Attempt.keeps_ofExcept fun updated h => ?_) fun es updated h => Attempt.keeps_pure ?_
    · unfold Attachment.record at h
      split at h
      · cases h
      · split at h
        · cases h
        · cases h
          exact .append result add selected
    · rintro _ ⟨⟩
      exact h

theorem dropOld_changes {attached : Attachment} {network : Selection}
    (remove : request.direction = .remove) (selected : network ∈ request.networks)
    (own : attached.network = network.network) : request.Changes (dropOld attached) := by
  intro past pod recorded
  refine Attempt.keeps_pure fun updated h => ?_
  obtain ⟨front, b, back, rfl, rfl, hb, -⟩ := Attachment.drop?_eq_some h
  exact .drop remove selected (hb.trans own)

theorem attach_keeps {network : Selection} (retries : Nat) (add : request.direction = .add)
    (selected : network ∈ request.networks) (known : request.Knows past pod) :
    (attach retries request pod network).Keeps request.Proper request.Knows past := by
  unfold attach
  refine Attempt.keeps_bind (m := fun _ _ => True) (Attempt.keeps_ofExcept fun _ _ => trivial)
    fun es recorded _ => ?_
  refine Attempt.keeps_bind (Attempt.keeps_lift (findAttachment_keeps recorded network))
    fun es₁ found _ => ?_
  have known := (known.append es).append es₁
  split
  · exact Attempt.keeps_pure known
  · split
    · exact Attempt.keeps_throw _
    · refine Attempt.keeps_bind (getDefinition_keeps network) fun es₂ definition _ => ?_
      have known := known.append es₂
      have call := known.proper (.invoke (pluginCall .add request pod network
        (network.interface?.getD "") definition)) rfl nofun
      refine Attempt.keeps_bind (m := fun _ _ => True)
        (Attempt.keeps_reply ⟨call, fun _ _ _ => trivial⟩) fun es₃ response _ => ?_
      have known := known.append es₃
      split
      · exact Attempt.keeps_throw _
      · next result _ =>
        have change := recordNew_changes result add selected
        refine Attempt.keeps_bind (rewriteStatus_keeps change _ _ known known) fun es₄ pod known => ?_
        refine Attempt.keeps_bind (m := fun _ _ => True)
          (Attempt.keeps_lift ⟨.of_own (fun _ => rfl) nofun, fun _ => trivial⟩)
          fun es₅ _ _ => Attempt.keeps_pure (known.append es₅)

theorem detach_keeps {network : Selection} (retries : Nat) (remove : request.direction = .remove)
    (selected : network ∈ request.networks) (known : request.Knows past pod) :
    (detach retries request pod network).Keeps request.Proper request.Knows past := by
  unfold detach
  refine Attempt.keeps_bind (m := fun _ _ => True) (Attempt.keeps_ofExcept fun _ _ => trivial)
    fun es recorded _ => ?_
  refine Attempt.keeps_bind (Attempt.keeps_lift (findAttachment_keeps recorded network))
    fun es₁ found own => ?_
  have known := (known.append es).append es₁
  cases found with
  | none => exact Attempt.keeps_pure known
  | some attached =>
    refine Attempt.keeps_bind (getDefinition_keeps network) fun es₂ definition _ => ?_
    have known := known.append es₂
    have call := known.proper (.invoke (pluginCall .del request pod network attached.interface
      definition)) rfl nofun
    refine Attempt.keeps_bind (m := fun _ _ => True)
      (Attempt.keeps_reply ⟨call, fun _ _ _ => trivial⟩) fun es₃ response _ => ?_
    have known := known.append es₃
    have change := dropOld_changes remove selected (own attached rfl)
    refine Attempt.keeps_bind (rewriteStatus_keeps change _ _ known known) fun es₄ pod known => ?_
    refine Attempt.keeps_bind (m := fun _ _ => True)
      (Attempt.keeps_lift ⟨.of_own (fun _ => rfl) nofun, fun _ => trivial⟩)
      fun es₅ _ _ => Attempt.keeps_pure (known.append es₅)

theorem workOff_keeps {networks : List Selection} (retries : Nat)
    (selected : ∀ network ∈ networks, network ∈ request.networks)
    (known : request.Knows past pod) :
    (workOff retries request networks pod).Keeps request.Proper request.Knows past := by
  induction networks generalizing past pod with
  | nil => exact Attempt.keeps_pure known
  | cons network networks ih =>
    have one : network ∈ request.networks := selected network (by simp)
    have others : ∀ es pod, request.Knows (past ++ es) pod →
        (workOff retries request networks pod).Keeps request.Proper request.Knows (past ++ es) :=
      fun es pod known => ih (fun n hn => selected n (List.mem_cons_of_mem _ hn)) known
    unfold workOff
    dsimp only
    split
    · next add => exact Attempt.keeps_bind (attach_keeps retries add one known) others
    · next remove => exact Attempt.keeps_bind (detach_keeps retries remove one known) others

/-- Every action of a request is in order. -/
theorem reconcile_keeps (retries : Nat) :
    (reconcile retries request).Keeps request.Proper (fun _ _ => True) [] := by
  have read : request.Proper [] (.getPod request.pod) := .of_own (fun _ => rfl) nofun
  refine Attempt.keeps_bind (m := request.Knows) (Attempt.keeps_reply ⟨read, ?_⟩)
    fun es pod known => ?_
  · rintro r pod rfl
    exact .of_answer (.get _ pod) read.subject
  · exact Attempt.keeps_bind (workOff_keeps retries (fun _ h => h) known)
      fun _ _ _ => Attempt.keeps_pure trivial

end Request

end NetAttach
