-- SUMMARY: What a request does to the status of its pod while nobody else writes pods and nothing fails.
import NetAttach.Proofs.Site
import NetAttach.Proofs.StatusWrite

/-!
# Requests in quiet surroundings

Surroundings are quiet if only the controller writes pods, all definitions are there, and
the plugin succeeds and names the interfaces that it makes as it is asked to, or with
names that are new. The plugin is free in everything else. Then a request to attach
networks gets as far as interfaces are not taken, and one to detach networks succeeds.
-/

namespace NetAttach

/-! ## Programs that come to an end -/

namespace Program

variable {Q : Type} {Answer : Q → Type} {α β σ : Type}
  {answers : σ → Exchange Answer → σ → Prop} {post : α → σ → Prop} {s : σ}

/-- Every question has an answer, and whatever the answers are the result is as it should be. -/
def Ensures (answers : σ → Exchange Answer → σ → Prop) (post : α → σ → Prop) :
    Program Answer α → σ → Prop
  | .done a, s => post a s
  | .act q next, s => (∃ r s', answers s ⟨q, r⟩ s')
      ∧ ∀ r s', answers s ⟨q, r⟩ s' → (next r).Ensures answers post s'

theorem Ensures.imp {post' : α → σ → Prop} {p : Program Answer α} (h : p.Ensures answers post s)
    (weaken : ∀ a s', post a s' → post' a s') : p.Ensures answers post' s := by
  induction p generalizing s with
  | done a => exact weaken a s h
  | act q next ih => exact ⟨h.1, fun r s' hr => ih r (h.2 r s' hr)⟩

theorem Ensures.bind {m : β → σ → Prop} {p : Program Answer β} {k : β → Program Answer α}
    (h : p.Ensures answers m s) (hk : ∀ b s', m b s' → (k b).Ensures answers post s') :
    (p.bind k).Ensures answers post s := by
  induction p generalizing s with
  | done b => exact hk b s h
  | act q next ih => exact ⟨h.1, fun r s' hr => ih r (h.2 r s' hr)⟩

end Program

namespace Attempt

variable {α β : Type} {answers : PodStore → Exchange → PodStore → Prop}
  {post : Except Fault α → PodStore → Prop} {s : PodStore}

/-- Every action has an answer, and the result is as it should be, whether it is a fault or not. -/
def Ensures (answers : PodStore → Exchange → PodStore → Prop)
    (post : Except Fault α → PodStore → Prop) (x : Attempt α) (s : PodStore) : Prop :=
  Program.Ensures answers post x.run s

theorem ensures_bind {m : Except Fault β → PodStore → Prop} {x : Attempt β} {k : β → Attempt α}
    (h : Ensures answers m x s) (ok : ∀ b s', m (.ok b) s' → Ensures answers post (k b) s')
    (error : ∀ e s', m (.error e) s' → post (.error e) s') :
    Ensures answers post (x >>= k) s := by
  refine Program.Ensures.bind (p := x.run) h fun r s' hr => ?_
  cases r with
  | ok b => exact ok b s' hr
  | error e => exact error e s' hr

end Attempt

/-! ## Quiet surroundings -/

/-- The interface that a plugin reports, given the one that it was asked for. -/
def Plugin.Result.interfaceName (r : Plugin.Result) (wanted : String) : String :=
  match (Attachment.mainInterface? r.interfaces).bind (r.interfaces[·]?) with
  | some i => if i.name = "" then wanted else i.name
  | none => wanted

theorem Attachment.interface_ofResult (network : Selection) (r : Plugin.Result) :
    (ofResult network r).interface = r.interfaceName (network.interface?.getD "") := rfl

namespace PodStore

/-- A name that a plugin may give to an interface: the one that it is asked for, or one that is
neither recorded for the pod nor asked for. -/
def Allows (s : PodStore) (call : Plugin.Call) (name : String) : Prop :=
  (call.interface ≠ "" → name = call.interface)
    ∧ (call.interface = "" → name ≠ "" ∧ ∀ pod, s.get ⟨call.podSpace, call.podName⟩ = .ok pod →
        (∀ recorded, Attachment.ofPod pod = .ok recorded → ∀ a ∈ recorded, a.interface ≠ name)
          ∧ ∀ all, Selection.ofPod pod = .ok all → ∀ t ∈ all, t.interface? ≠ some name)

/-- How quiet surroundings answer an action. -/
def Quiet (s : PodStore) (e : Exchange) (s' : PodStore) : Prop :=
  s.Answers e s' ∧ match e with
    | ⟨.getDefinition _, answer⟩ => ∃ definition, answer = .ok definition
    | ⟨.invoke call, answer⟩ => ∃ response, answer = .ok response ∧ (call.command = .add →
        ∃ result, response.result = some result
          ∧ s.Allows call (result.interfaceName call.interface))
    | _ => True

/-- A pod as it is stored, with its selections and its attachments. -/
structure Holds (s : PodStore) (pod : Pod) (all : List Selection) (recorded : List Attachment) :
    Prop where
  stored : s.get pod.key = .ok pod
  selected : Selection.ofPod pod = .ok all
  status : Attachment.ofPod pod = .ok recorded
  lasting : ∀ a ∈ recorded, a.Lasting

variable {s : PodStore} {pod : Pod} {all : List Selection} {recorded updated : List Attachment}

/-- A status is written, and read again as it was written. -/
theorem Holds.write (h : s.Holds pod all recorded) (lasting : ∀ a ∈ updated, a.Lasting) :
    ∃ pod' s', pod'.key = pod.key
      ∧ s.update (pod.annotate statusKey (Attachment.renderList updated)) = (.ok pod', s')
      ∧ s'.Holds pod' all updated := by
  obtain ⟨accepted, stored⟩ := update_withStatus h.stored updated
  exact ⟨pod.withStatus updated, _, rfl, accepted, stored, Selection.ofPod_withStatus.trans h.selected,
    Attachment.ofPod_withStatus lasting, lasting⟩

/-! ## Answers -/

theorem exists_fresh (names : List String) : ∃ name : String, name ≠ "" ∧ name ∉ names := by
  have long : ∃ n, ∀ name ∈ names, name.length < n := by
    induction names with
    | nil => exact ⟨0, nofun⟩
    | cons name names ih =>
      obtain ⟨n, hn⟩ := ih
      refine ⟨name.length + 1 + n, fun x hx => ?_⟩
      obtain rfl | hx := List.mem_cons.1 hx
      · omega
      · have := hn x hx
        omega
  obtain ⟨n, hn⟩ := long
  have length : (String.ofList (List.replicate (n + 1) 'x')).length = n + 1 := by simp
  refine ⟨String.ofList (List.replicate (n + 1) 'x'), fun h => ?_, fun h => ?_⟩
  · rw [h] at length
    cases length
  · have := hn _ h
    omega

/-- The names of interfaces that are recorded for a pod or asked for by it. -/
def namesTaken (s : PodStore) (key : ObjectKey) : List String :=
  ((s.get key).toOption.map fun pod =>
    ((Attachment.ofPod pod).toOption.getD []).map (·.interface)
      ++ ((Selection.ofPod pod).toOption.getD []).filterMap Selection.interface?).getD []

/-- A plugin can always name an interface as it has to. -/
theorem exists_allows (s : PodStore) (call : Plugin.Call) :
    ∃ result : Plugin.Result, s.Allows call (result.interfaceName call.interface) := by
  by_cases asked : call.interface = ""
  · obtain ⟨name, nonempty, fresh⟩ := exists_fresh (s.namesTaken ⟨call.podSpace, call.podName⟩)
    have named : Plugin.Result.interfaceName ⟨"", [⟨name, "", ""⟩], [], [], .empty⟩ call.interface
        = name := by
      simp [Plugin.Result.interfaceName, Attachment.mainInterface?, nonempty]
    refine ⟨⟨"", [⟨name, "", ""⟩], [], [], .empty⟩, fun h => absurd asked h, fun _ => ?_⟩
    rw [named]
    refine ⟨nonempty, fun pod stored => ⟨fun recorded status a ha same => fresh ?_,
      fun all selected t ht same => fresh ?_⟩⟩
    · simp only [namesTaken, stored, status, Except.toOption, Option.getD_some, List.mem_append,
        List.mem_map, Option.map_some]
      exact .inl ⟨a, ha, same⟩
    · simp only [namesTaken, stored, selected, Except.toOption, Option.getD_some, List.mem_append,
        List.mem_filterMap, Option.map_some]
      exact .inr ⟨t, ht, same⟩
  · exact ⟨⟨"", [], [], [], .empty⟩, fun _ => rfl, fun h => absurd h asked⟩

end PodStore

/-! ## Parts of a request -/

section

open PodStore Attempt Attachment

variable {s : PodStore} {pod : Pod} {all : List Selection} {recorded updated : List Attachment}
  {network : Selection} {request : Request}

theorem findAttachment_eq (selected : Selection.ofPod pod = .ok all) (recorded : List Attachment)
    (network : Selection) :
    findAttachment pod recorded network = pure (find? recorded network all) := by
  simp [findAttachment, currentSelections, selected]

theorem getDefinition_ensures (s : PodStore) (network : Selection) :
    Ensures Quiet (fun r s' => (∃ definition, r = .ok definition) ∧ s' = s)
      (getDefinition network) s := by
  unfold getDefinition
  refine ensures_bind (m := fun r s' => (∃ definition, r = .ok (.ok definition)) ∧ s' = s) ?_ ?_ ?_
  · refine ⟨⟨.ok ⟨"", "", ""⟩, s, rfl, _, rfl⟩, ?_⟩
    rintro r s' ⟨same, definition, rfl⟩
    exact ⟨⟨definition, rfl⟩, same⟩
  · rintro r s' ⟨⟨definition, ⟨⟩⟩, rfl⟩
    exact ⟨⟨definition, rfl⟩, rfl⟩
  · rintro e s' ⟨⟨definition, ⟨⟩⟩, -⟩

/-- A change of the status is written at once. -/
theorem updateStatus_ensures (h : s.Holds pod all recorded) (limit left : Nat)
    {change : StatusChange} (changes : change pod recorded = pure (some updated))
    (lasting : ∀ a ∈ updated, a.Lasting) :
    Ensures Quiet (fun r s' => ∃ pod', r = .ok pod' ∧ pod'.key = pod.key
      ∧ s'.Holds pod' all updated) (updateStatus limit change left pod) s := by
  obtain ⟨pod', s', key, written, h'⟩ := h.write lasting
  unfold updateStatus rewriteStatus
  rw [h.status]
  show Ensures _ _ (change pod recorded >>= _) s
  rw [changes]
  refine ⟨⟨.ok pod', s', written, trivial⟩, ?_⟩
  rintro r s'' ⟨written', -⟩
  cases written.symm.trans written'
  exact ⟨pod', rfl, key, h'⟩

/-- What a plugin makes in quiet surroundings is new, and named as it is asked to. -/
theorem makes_ofResult {result : Plugin.Result} {definition : Definition}
    (h : s.Holds pod all recorded)
    (free : ∀ i, network.interface? = some i → ∀ b ∈ recorded, b.interface ≠ i)
    (allows : s.Allows (pluginCall .add request pod network (network.interface?.getD "") definition)
      (result.interfaceName (network.interface?.getD ""))) :
    Makes all recorded network (ofResult network result)
      ∧ (ofResult network result).interface ≠ "" := by
  obtain ⟨asked, unasked⟩ := allows
  have name := interface_ofResult network result
  cases hi : network.interface? with
  | some i =>
    have nonempty : i ≠ "" := by
      rintro rfl
      unfold Selection.interface? at hi
      split at hi
      · split at hi <;> cases hi
        contradiction
      · cases hi
    rw [hi] at name asked
    have same : (ofResult network result).interface = i := name.trans (asked nonempty)
    refine ⟨⟨rfl, ?_, fun hn => ?_, ?_⟩, same ▸ nonempty⟩
    · rintro j hj
      rw [hi] at hj
      cases hj
      exact same
    · rw [hi] at hn
      cases hn
    · rw [same]
      exact free i hi
  | none =>
    rw [hi] at name unasked
    obtain ⟨nonempty, fresh⟩ := unasked rfl
    rw [← name] at nonempty
    obtain ⟨unrecorded, unselected⟩ := fresh pod h.stored
    rw [← name] at unrecorded unselected
    refine ⟨⟨rfl, ?_, fun _ => unselected all h.selected, unrecorded recorded h.status⟩, nonempty⟩
    intro j hj
    rw [hi] at hj
    cases hj

/-- A plugin that is called to attach a network makes what can be recorded. -/
theorem invoke_add_ensures (h : s.Holds pod all recorded) (request : Request)
    (free : ∀ i, network.interface? = some i → ∀ b ∈ recorded, b.interface ≠ i)
    (definition : Definition) :
    Ensures Quiet (fun r s' => ∃ response result, r = .ok response ∧ response.result = some result
      ∧ Makes all recorded network (ofResult network result)
      ∧ (ofResult network result).interface ≠ "" ∧ s'.Holds pod all recorded)
      (reply (ask (.invoke
        (pluginCall .add request pod network (network.interface?.getD "") definition)))) s := by
  obtain ⟨result, allows⟩ := exists_allows s
    (pluginCall .add request pod network (network.interface?.getD "") definition)
  refine ⟨⟨.ok ⟨some result⟩, s, rfl, _, rfl, fun _ => ⟨result, rfl, allows⟩⟩, ?_⟩
  rintro r s' ⟨rfl, response, rfl, named⟩
  obtain ⟨result, hresult, allows⟩ := named rfl
  obtain ⟨makes, nonempty⟩ := makes_ofResult h free allows
  exact ⟨response, result, rfl, hresult, makes, nonempty, h⟩

theorem recordNew_eq {a : Attachment} (selected : Selection.ofPod pod = .ok all)
    (new : ¬Attached recorded network all) (makes : Makes all recorded network a)
    (nonempty : a.interface ≠ "") :
    recordNew network a pod recorded = pure (some (recorded ++ [a])) := by
  have recorded' : record recorded a = .ok (recorded ++ [a]) := by
    unfold record
    rw [if_neg nonempty, if_neg (by simpa using makes.fresh)]
  unfold recordNew
  rw [findAttachment_eq selected, find?_eq_none.2 new, recorded']
  rfl

/-- To attach a network is one step of attaching the networks of a request. -/
theorem attach_ensures (h : s.Holds pod all recorded) (retries : Nat) (request : Request)
    (network : Selection) :
    Ensures Quiet (fun r s' =>
      (∃ pod' updated, r = .ok pod' ∧ pod'.key = pod.key ∧ s'.Holds pod' all updated
        ∧ ∀ networks final ok, Attaching all updated networks final ok →
            Attaching all recorded (network :: networks) final ok)
      ∨ ((∃ e, r = .error e) ∧ s' = s
        ∧ ∀ networks, Attaching all recorded (network :: networks) recorded false))
      (attach retries request pod network) s := by
  unfold attach
  rw [h.status]
  show Ensures _ _ (liftM (findAttachment pod recorded network) >>= _) s
  rw [findAttachment_eq h.selected]
  by_cases attached : Attached recorded network all
  · have found := find?_isSome.2 attached
    show Ensures _ _ (if (find? recorded network all).isSome then _ else _) s
    rw [if_pos found]
    exact .inl ⟨pod, recorded, rfl, rfl, h, fun _ _ _ rest => .present attached rest⟩
  · have absent := mt find?_isSome.1 attached
    show Ensures _ _ (if (find? recorded network all).isSome then _ else _) s
    rw [if_neg absent]
    split
    · next taken held =>
      obtain ⟨i, asked, held⟩ := Option.bind_eq_some_iff.1 held
      have same : taken.interface = i := by simpa using List.find?_some held
      exact .inr ⟨⟨_, rfl⟩, rfl, fun networks =>
        .taken networks attached asked ⟨taken, List.mem_of_find?_eq_some held, same⟩⟩
    · next untaken =>
      have free : ∀ i, network.interface? = some i → ∀ b ∈ recorded, b.interface ≠ i := by
        intro i hi b hb
        have := Option.bind_eq_none_iff.1 untaken i hi
        simpa using List.find?_eq_none.1 this b hb
      refine ensures_bind (getDefinition_ensures s network) ?_ ?_
      · rintro definition s' ⟨-, rfl⟩
        refine ensures_bind (invoke_add_ensures h request free definition) ?_ ?_
        · rintro response s'' ⟨_, result, ⟨⟩, hresult, makes, nonempty, h'⟩
          dsimp only
          rw [hresult]
          have changes : recordNew network (ofResult network result) pod recorded
              = pure (some (recorded ++ [ofResult network result])) :=
            recordNew_eq h.selected attached makes nonempty
          refine ensures_bind
            (updateStatus_ensures h' retries retries changes (lasting_attached h.lasting)) ?_ ?_
          · rintro stored s₃ ⟨_, ⟨⟩, key, h₃⟩
            refine ⟨⟨(), s₃, rfl, trivial⟩, ?_⟩
            rintro r s₄ ⟨rfl, -⟩
            exact .inl ⟨stored, _, rfl, key, h₃, fun _ _ _ rest => .made attached makes rest⟩
          · rintro e s₃ ⟨_, ⟨⟩, -⟩
        · rintro e s'' ⟨_, _, ⟨⟩, -⟩
      · rintro e s' ⟨⟨_, ⟨⟩⟩, -⟩

/-- To detach a network is to drop the attachment that it refers to, if there is any. -/
theorem detach_ensures (h : s.Holds pod all recorded) (retries : Nat) (request : Request)
    (network : Selection) :
    Ensures Quiet (fun r s' => ∃ pod', r = .ok pod' ∧ pod'.key = pod.key
      ∧ s'.Holds pod' all (detachOne all recorded network))
      (detach retries request pod network) s := by
  unfold detach
  rw [h.status]
  show Ensures _ _ (liftM (findAttachment pod recorded network) >>= _) s
  rw [findAttachment_eq h.selected]
  cases found : find? recorded network all with
  | none =>
    have same : detachOne all recorded network = recorded := by simp [detachOne, found]
    exact ⟨pod, rfl, rfl, same.symm ▸ h⟩
  | some a =>
    have changes : dropOld a pod recorded = pure (some (detachOne all recorded network)) := by
      unfold dropOld
      rw [drop?_of_find? found]
    show Ensures _ _ (getDefinition network >>= _) s
    refine ensures_bind (getDefinition_ensures s network) ?_ ?_
    · rintro definition s' ⟨-, rfl⟩
      refine ensures_bind (m := fun r s' => (∃ response, r = .ok response) ∧ s'.Holds pod all recorded)
        ?_ ?_ ?_
      · refine ⟨⟨.ok ⟨none⟩, s', rfl, _, rfl, (Command.noConfusion ·)⟩, ?_⟩
        rintro r s'' ⟨rfl, response, rfl, -⟩
        exact ⟨⟨response, rfl⟩, h⟩
      · rintro response s'' ⟨-, h'⟩
        refine ensures_bind
          (updateStatus_ensures h' retries retries changes (lasting_detachOne all h.lasting)) ?_ ?_
        · rintro stored s₃ ⟨_, ⟨⟩, key, h₃⟩
          refine ⟨⟨(), s₃, rfl, trivial⟩, ?_⟩
          rintro r s₄ ⟨rfl, -⟩
          exact ⟨stored, rfl, key, h₃⟩
        · rintro e s₃ ⟨_, ⟨⟩, -⟩
      · rintro e s'' ⟨⟨_, ⟨⟩⟩, -⟩
    · rintro e s' ⟨⟨_, ⟨⟩⟩, -⟩

/-! ## Requests -/

theorem workOff_add_ensures (h : s.Holds pod all recorded) (retries : Nat)
    (add : request.direction = .add) (networks : List Selection) :
    Ensures Quiet (fun r s' => ∃ pod' updated, pod'.key = pod.key ∧ s'.Holds pod' all updated
      ∧ Attaching all recorded networks updated r.isOk)
      (workOff retries request networks pod) s := by
  induction networks generalizing s pod recorded with
  | nil => exact ⟨pod, recorded, rfl, h, .done recorded⟩
  | cons network networks ih =>
    unfold workOff
    rw [add]
    refine ensures_bind (attach_ensures h retries request network) ?_ ?_
    · rintro pod' s' (⟨_, updated, ⟨⟩, key, h', step⟩ | ⟨⟨_, ⟨⟩⟩, -⟩)
      refine (ih h').imp fun r s'' next => ?_
      obtain ⟨pod'', final, key', h'', rest⟩ := next
      exact ⟨pod'', final, key'.trans key, h'', step _ _ _ rest⟩
    · rintro e s' (⟨_, _, ⟨⟩, -⟩ | ⟨-, rfl, stuck⟩)
      exact ⟨pod, recorded, rfl, h, stuck networks⟩

theorem workOff_remove_ensures (h : s.Holds pod all recorded) (retries : Nat)
    (remove : request.direction = .remove) (networks : List Selection) :
    Ensures Quiet (fun r s' => ∃ pod', r = .ok pod' ∧ pod'.key = pod.key
      ∧ s'.Holds pod' all (detachAll all recorded networks))
      (workOff retries request networks pod) s := by
  induction networks generalizing s pod recorded with
  | nil => exact ⟨pod, rfl, rfl, h⟩
  | cons network networks ih =>
    unfold workOff
    rw [remove]
    refine ensures_bind (detach_ensures h retries request network) ?_ ?_
    · rintro pod' s' ⟨_, ⟨⟩, key, h'⟩
      refine (ih h').imp fun r s'' next => ?_
      obtain ⟨pod'', hr, key', h''⟩ := next
      exact ⟨pod'', hr, key'.trans key, h''⟩
    · rintro e s' ⟨_, ⟨⟩, -⟩

theorem getPod_ensures (h : s.Holds pod all recorded) :
    Ensures Quiet (fun r s' => r = .ok pod ∧ s' = s) (reply (ask (.getPod pod.key))) s := by
  refine ⟨⟨_, s, ⟨rfl, rfl⟩, trivial⟩, ?_⟩
  rintro r s' ⟨⟨rfl, rfl⟩, -⟩
  exact ⟨h.stored, rfl⟩

/-- A request to attach networks gets as far as no interface is taken. -/
theorem reconcile_add_ensures (h : s.Holds pod all recorded) (retries : Nat)
    (own : request.pod = pod.key) (add : request.direction = .add) :
    Ensures Quiet (fun r s' => ∃ pod' updated, pod'.key = pod.key ∧ s'.Holds pod' all updated
      ∧ Attaching all recorded request.networks updated r.isOk) (reconcile retries request) s := by
  unfold reconcile
  rw [own]
  refine ensures_bind (getPod_ensures h) ?_ ?_
  · rintro _ s' ⟨⟨⟩, rfl⟩
    refine ensures_bind (workOff_add_ensures h retries add request.networks) ?_ ?_
    · exact fun _ s'' h'' => h''
    · exact fun _ s'' h'' => h''
  · rintro e s' ⟨⟨⟩, -⟩

/-- A request to detach networks succeeds. -/
theorem reconcile_remove_ensures (h : s.Holds pod all recorded) (retries : Nat)
    (own : request.pod = pod.key) (remove : request.direction = .remove) :
    Ensures Quiet (fun r s' => r = .ok () ∧ ∃ pod', pod'.key = pod.key
      ∧ s'.Holds pod' all (detachAll all recorded request.networks)) (reconcile retries request) s := by
  unfold reconcile
  rw [own]
  refine ensures_bind (getPod_ensures h) ?_ ?_
  · rintro _ s' ⟨⟨⟩, rfl⟩
    refine ensures_bind (workOff_remove_ensures h retries remove request.networks) ?_ ?_
    · rintro stored s'' ⟨_, ⟨⟩, h''⟩
      exact ⟨rfl, stored, h''⟩
    · rintro _ s'' ⟨_, ⟨⟩, -⟩
  · rintro e s' ⟨⟨⟩, -⟩

end

end NetAttach
