-- SUMMARY: After the networks annotation was edited, which attachments of a network that is gone are detached.
import NetAttach.Proofs.Undisturbed
import NetAttach.Controller.Watch

/-!
# Networks that are gone

When a network is not selected any more, every attachment of it is to be detached. The
selections that were for it are worked off in their order. One that asks for an interface
detaches this interface. One that asks for none detaches the first that nothing selects by
name now, which may be one that a later selection of the same network asks for. So the
interface that nothing ever asked for is reached only if enough others are gone before.
-/

namespace NetAttach

/-! ## Names -/

/-- What the selections for a network ask for. -/
def asked (network : String) (selections : List Selection) : List (Option String) :=
  (selections.filter fun s => s.network == network).map Selection.interface?

/-- The recorded interfaces of a network. -/
def interfacesOf (network : String) (recorded : List Attachment) : List String :=
  (recorded.filter fun a => a.network == network).map Attachment.interface

/-- An interface that one of the selections asks for. -/
def claimed (selections : List Selection) (i : String) : Bool :=
  selections.any fun s => s.interface? == some i

/-- What is left of the interfaces of a network after one selection for it was worked off. -/
def strike (kept : String → Bool) (names : List String) : Option String → List String
  | some i => names.erase i
  | none => names.eraseP fun i => !kept i

/-- Something that asks for no interface comes after all names are struck: those that are asked for,
and one for everything else that asks for no interface. -/
def Reaches : List String → List (Option String) → Prop
  | _, [] => False
  | names, some i :: rest => Reaches (names.erase i) rest
  | names, none :: rest => names = [] ∨ Reaches names.tail rest

instance decidableReaches : (names : List String) → (wanted : List (Option String)) →
    Decidable (Reaches names wanted)
  | _, [] => .isFalse id
  | names, some i :: rest => decidableReaches (names.erase i) rest
  | names, none :: rest =>
    have := decidableReaches names.tail rest
    inferInstanceAs (Decidable (names = [] ∨ Reaches names.tail rest))

/-- The interfaces before one of them that nothing keeps. -/
def earlier (kept : String → Bool) (u : String) (names : List String) : List String :=
  (names.takeWhile fun i => i != u).filter fun i => !kept i

variable {kept : String → Bool} {names front back : List String} {wanted : List (Option String)}
  {u : String}

theorem strike_sublist (w : Option String) : (strike kept names w).Sublist names := by
  cases w with
  | none => exact List.eraseP_sublist
  | some i => exact List.erase_sublist

theorem foldl_strike_sublist (names : List String) (wanted : List (Option String)) :
    (wanted.foldl (strike kept) names).Sublist names := by
  induction wanted generalizing names with
  | nil => exact .refl _
  | cons w wanted ih => exact (ih _).trans (strike_sublist w)

/-- What is asked for by name is struck. -/
theorem not_mem_foldl_strike {i : String} (nodup : names.Nodup) (asks : some i ∈ wanted) :
    i ∉ wanted.foldl (strike kept) names := by
  induction wanted generalizing names with
  | nil => cases asks
  | cons w wanted ih =>
    obtain rfl | asks := List.mem_cons.1 asks
    · intro mem
      exact nodup.not_mem_erase ((foldl_strike_sublist _ _).subset mem)
    · exact ih (nodup.sublist (strike_sublist w)) asks

theorem filter_eraseP (p : String → Bool) (names : List String) :
    (names.eraseP p).filter p = (names.filter p).tail := by
  induction names with
  | nil => rfl
  | cons i names ih =>
    by_cases h : p i = true
    · rw [List.eraseP_cons_of_pos h, List.filter_cons_of_pos h]
      rfl
    · rw [List.eraseP_cons_of_neg h, List.filter_cons_of_neg h, List.filter_cons_of_neg h, ih]

/-- An interface that nothing keeps is struck exactly if it is reached. -/
theorem mem_foldl_strike (free : kept u = false) (unasked : some u ∉ wanted) (ahead : u ∉ front)
    (behind : u ∉ back) :
    u ∈ wanted.foldl (strike kept) (front ++ u :: back)
      ↔ ¬Reaches (front.filter fun i => !kept i) wanted := by
  induction wanted generalizing front back with
  | nil => exact iff_of_true (by simp) id
  | cons w wanted ih =>
    have unasked' : some u ∉ wanted := fun h => unasked (List.mem_cons_of_mem _ h)
    cases w with
    | some i =>
      have other : u ≠ i := by
        rintro rfl
        exact unasked (List.mem_cons_self ..)
      show u ∈ wanted.foldl (strike kept) ((front ++ u :: back).erase i) ↔ _
      by_cases mem : i ∈ front
      · rw [List.erase_append_left _ mem, ih unasked' (mt List.mem_of_mem_erase ahead) behind]
        show _ ↔ ¬Reaches ((front.filter fun i => !kept i).erase i) wanted
        rw [List.erase_filter]
      · rw [List.erase_append_right _ mem, List.erase_cons_tail (by simpa using other),
          ih unasked' ahead (mt List.mem_of_mem_erase behind)]
        show _ ↔ ¬Reaches ((front.filter fun i => !kept i).erase i) wanted
        rw [List.erase_of_not_mem fun h => mem (List.mem_filter.1 h).1]
    | none =>
      show u ∈ wanted.foldl (strike kept) ((front ++ u :: back).eraseP fun i => !kept i)
        ↔ ¬(front.filter (fun i => !kept i) = [] ∨ Reaches (front.filter fun i => !kept i).tail wanted)
      by_cases none : front.filter (fun i => !kept i) = []
      · rw [List.eraseP_append_right _ (List.filter_eq_nil_iff.1 none),
          List.eraseP_cons_of_pos (by simpa using free)]
        refine iff_of_false (fun mem => ?_) (not_not_intro (.inl none))
        exact (List.mem_append.1 ((foldl_strike_sublist _ _).subset mem)).elim ahead behind
      · obtain ⟨i, mem⟩ := List.exists_mem_of_ne_nil _ none
        obtain ⟨mem, hi⟩ := List.mem_filter.1 mem
        rw [List.eraseP_append_left (by exact hi) _ mem,
          ih unasked' (mt List.mem_of_mem_eraseP ahead) behind, filter_eraseP, or_iff_right none]

/-- An interface that is kept is struck by name only. -/
theorem mem_foldl_strike_of_kept (held : kept u = true) (unasked : some u ∉ wanted)
    (mem : u ∈ names) : u ∈ wanted.foldl (strike kept) names := by
  induction wanted generalizing names with
  | nil => exact mem
  | cons w wanted ih =>
    apply ih fun h => unasked (List.mem_cons_of_mem _ h)
    cases w with
    | none => exact (List.mem_eraseP_of_neg (by simpa using held)).2 mem
    | some i =>
      apply (List.mem_erase_of_ne _).2 mem
      rintro rfl
      exact unasked (List.mem_cons_self ..)

theorem eq_of_forall_eq (nodup : names.Nodup) (all : ∀ i ∈ names, i = u) :
    names = if u ∈ names then [u] else [] := by
  match names with
  | [] => rfl
  | [i] => simp [all i (List.mem_singleton_self i)]
  | i :: j :: _ =>
    have same : i = j := (all i (by simp)).trans (all j (by simp)).symm
    simp [same] at nodup

/-- Of the interfaces of a network that is gone, what nothing asked for is left, unless it is
reached. -/
theorem foldl_strike (nodup : names.Nodup)
    (entries : ∀ i, i ∈ names ↔ some i ∈ wanted ∨ (none ∈ wanted ∧ i = u))
    (unasked : some u ∉ wanted) :
    wanted.foldl (strike kept) names
      = if none ∈ wanted ∧ (kept u = true ∨ ¬Reaches (earlier kept u names) wanted) then [u]
        else [] := by
  have left : (wanted.foldl (strike kept) names).Sublist names := foldl_strike_sublist names wanted
  have only : ∀ i ∈ wanted.foldl (strike kept) names, i = u := by
    intro i mem
    obtain asks | ⟨-, same⟩ := (entries i).1 (left.subset mem)
    · exact absurd mem (not_mem_foldl_strike nodup asks)
    · exact same
  have stays : u ∈ wanted.foldl (strike kept) names
      ↔ none ∈ wanted ∧ (kept u = true ∨ ¬Reaches (earlier kept u names) wanted) := by
    by_cases asks : none ∈ wanted
    · have mem : u ∈ names := (entries u).2 (.inr ⟨asks, rfl⟩)
      rw [and_iff_right asks]
      cases held : kept u with
      | true => exact iff_of_true (mem_foldl_strike_of_kept held unasked mem) (.inl rfl)
      | false =>
        obtain ⟨front, back, rfl⟩ := List.append_of_mem mem
        obtain ⟨-, behind, across⟩ := List.nodup_append.1 nodup
        have ahead : u ∉ front := fun h => across u h u (by simp) rfl
        have before : earlier kept u (front ++ u :: back) = front.filter fun i => !kept i := by
          unfold earlier
          rw [List.takeWhile_append_of_pos fun i hi => by
            simpa using fun same : i = u => ahead (same ▸ hi)]
          simp
        rw [before, mem_foldl_strike held unasked ahead (List.nodup_cons.1 behind).1,
          or_iff_right nofun]
    · refine iff_of_false (fun mem => ?_) fun h => asks h.1
      obtain asks' | ⟨asks', -⟩ := (entries u).1 (left.subset mem)
      · exact unasked asks'
      · exact asks asks'
  rw [eq_of_forall_eq (nodup.sublist left) only]
  simp only [stays]

/-! ## Attachments -/

section

open Attachment

variable {all : List Selection} {recorded : List Attachment} {s : Selection} {network : String}

theorem filter_eraseP_of_disjoint {p q : Attachment → Bool} (recorded : List Attachment)
    (disjoint : ∀ a, q a = true → p a = false) :
    (recorded.eraseP q).filter p = recorded.filter p := by
  induction recorded with
  | nil => rfl
  | cons a recorded ih =>
    cases hit : q a with
    | true => simp [hit, disjoint a hit]
    | false => simp [hit, List.filter_cons, ih]

theorem map_filter_eraseP {p : Attachment → Bool} {q : String → Bool} (recorded : List Attachment) :
    ((recorded.eraseP fun a => p a && q a.interface).filter p).map Attachment.interface
      = ((recorded.filter p).map Attachment.interface).eraseP q := by
  induction recorded with
  | nil => rfl
  | cons a recorded ih =>
    cases own : p a with
    | false => simp [own, ih]
    | true => cases hit : q a.interface <;> simp [own, hit, ih]

theorem interfacesOf_detachOne_of_ne (other : s.network ≠ network) :
    interfacesOf network (detachOne all recorded s) = interfacesOf network recorded := by
  have unlike : ∀ a : Attachment, a.matchesSelection s all = true → (a.network == network) = false := by
    intro a refers
    rw [(matchesSelection_iff.1 refers).1]
    simpa using other
  rw [detachOne_eq, interfacesOf, filter_eraseP_of_disjoint recorded unlike]
  rfl

/-- To work off a selection is to strike a name. -/
theorem interfacesOf_detachOne (same : s.network = network) :
    interfacesOf network (detachOne all recorded s)
      = strike (claimed all) (interfacesOf network recorded) s.interface? := by
  subst same
  rw [detachOne_eq]
  cases asks : s.interface? with
  | some i =>
    have refers : (fun a : Attachment => a.matchesSelection s all)
        = fun a => a.network == s.network && a.interface == i := by
      funext a
      rw [matchesSelection, asks]
    rw [refers, strike, List.erase_eq_eraseP']
    exact map_filter_eraseP (p := (·.network == s.network)) (q := (· == i)) recorded
  | none =>
    have refers : (fun a : Attachment => a.matchesSelection s all)
        = fun a => a.network == s.network && !claimed all a.interface := by
      funext a
      rw [matchesSelection, asks]
      rfl
    rw [refers]
    exact map_filter_eraseP (p := (·.network == s.network)) (q := fun i => !claimed all i) recorded

theorem interfacesOf_detachAll (selections : List Selection) :
    interfacesOf network (detachAll all recorded selections)
      = (asked network selections).foldl (strike (claimed all)) (interfacesOf network recorded) := by
  induction selections generalizing recorded with
  | nil => rfl
  | cons s selections ih =>
    show interfacesOf network (detachAll all (detachOne all recorded s) selections) = _
    rw [ih]
    unfold asked
    by_cases same : s.network = network
    · rw [List.filter_cons_of_pos (by simpa using same), interfacesOf_detachOne same]
      rfl
    · rw [List.filter_cons_of_neg (by simpa using same), interfacesOf_detachOne_of_ne same]

end

/-! ## The request of the watch -/

/-- The requests that are made. -/
def Exchange.requests (es : List Exchange) : List Request :=
  es.filterMap fun
    | ⟨.enqueue request, _⟩ => some request
    | _ => none

open Exchange (calls requests)

/-- What the watch requests to be detached is selected before a change of a pod and not after it. -/
theorem removal_of_watch {σ : Type} {answers : σ → Exchange → σ → Prop} {s s' : σ}
    {es : List Exchange} {old new : Pod} {before after : List Selection} {request : Request}
    (watch : (handleUpdate old new).Course answers s es () s')
    (readable : Selection.ofPod old = .ok before) (selected : Selection.ofPod new = .ok after)
    (made : request ∈ requests es) (remove : request.direction = .remove) :
    request.pod = new.key ∧ request.networks = Selection.notIn before after := by
  have changes : ∀ {direction : Direction} {networks : List Selection} {netns : String} {s s' : σ}
      {es : List Exchange},
      (requestChange new.key direction networks netns).Course answers s es () s' →
      request ∈ requests es → request = ⟨new.key, direction, networks, netns⟩ := by
    intro direction networks netns s s' es course made
    unfold requestChange at course
    split at course
    · obtain ⟨rfl, -, -⟩ := Program.course_done.1 course
      cases made
    · obtain ⟨rfl, -⟩ := Program.course_ask.1 course
      exact List.mem_singleton.1 made
  unfold handleUpdate at watch
  split at watch
  · obtain ⟨rfl, -, -⟩ := Program.course_done.1 watch
    cases made
  rw [readable, selected] at watch
  dsimp only at watch
  split at watch
  · obtain ⟨rfl, -, -⟩ := Program.course_done.1 watch
    cases made
  obtain ⟨es₁, netns, m, es₂, rfl, look, rest⟩ := Program.course_bind.1 watch
  have none : requests es₁ = [] := by
    unfold podNetns at look
    split at look
    · obtain ⟨rfl, -⟩ := Program.course_ask.1 look
      rfl
    · obtain ⟨rfl, -, -⟩ := Program.course_done.1 look
      rfl
  unfold requests at made none changes
  rw [List.filterMap_append, none, List.nil_append] at made
  cases netns with
  | error cause =>
    obtain ⟨rfl, -⟩ := Program.course_ask.1 rest
    cases made
  | ok netns =>
    obtain ⟨es₃, _, m', es₄, rfl, first, second⟩ := Program.course_bind.1 rest
    rw [List.filterMap_append] at made
    obtain made | made := List.mem_append.1 made
    · rw [changes first made] at remove
      cases remove
    · rw [changes second made]
      exact ⟨rfl, rfl⟩

/-! ## Detached attachments -/

/-- An attachment that was detached, with the selection and the definition that it was detached for. -/
structure Detachment where
  attachment : Attachment
  network : Selection
  definition : Definition

/-- The call of the plugin by which an attachment is detached. -/
def Detachment.call (d : Detachment) (request : Request) (pod : Pod) : Plugin.Call :=
  pluginCall .del request pod d.network d.attachment.interface d.definition

/-- A detachment for one of some networks, with a definition that was found for it. -/
structure Detachment.Proper (d : Detachment) (networks : List Selection) (es : List Exchange) :
    Prop where
  selected : d.network ∈ networks
  own : d.attachment.network = d.network.network
  defined : ⟨.getDefinition ⟨d.network.space, d.network.name⟩, .ok d.definition⟩ ∈ es

theorem perm_detachOne {recorded : List Attachment} {a : Attachment} {network : Selection}
    {all : List Selection} (found : Attachment.find? recorded network all = some a) :
    recorded.Perm (a :: Attachment.detachOne all recorded network) := by
  obtain ⟨refers, front, back, rfl, none⟩ := List.find?_eq_some_iff_append.1 found
  rw [Attachment.detachOne_eq, List.eraseP_append_right _ (by simpa using none),
    List.eraseP_cons_of_pos (by exact refers)]
  exact List.perm_middle

/-- A network that was detached without a failure is detached from what it refers to. -/
theorem Visited.detachment {request : Request} {network : Selection} {pod pod' : Pod}
    {es : List Exchange} {recorded : List Attachment}
    (h : Visited request network pod es (.ok pod') pod') (remove : request.direction = .remove)
    (lasting : pod.Lasting) (status : Attachment.ofPod pod = .ok recorded) :
    (pod' = pod ∨ ∃ updated, pod' = pod.withStatus updated)
      ∧ Attachment.ofPod pod' = .ok (Attachment.detachOne pod.selections recorded network)
      ∧ ∃ detached : List Detachment,
        recorded.Perm (detached.map (·.attachment)
          ++ Attachment.detachOne pod.selections recorded network)
        ∧ (calls es).map (·.1) = detached.map (·.call request pod)
        ∧ ∀ d ∈ detached, d.Proper [network] es := by
  generalize hr : (Except.ok pod' : Except Fault Pod) = r at h
  cases h with
  | failed => cases hr
  | passed settled silent =>
    have absent := (PodStore.settled_remove remove status).1 settled
    have same : Attachment.detachOne pod.selections recorded network = recorded := by
      simp only [Attachment.detachOne, Attachment.find?_eq_none.2 absent]
    rw [same, silent]
    exact ⟨.inl rfl, status, [], .refl _, rfl, List.forall_mem_nil _⟩
  | attached add =>
    rw [add] at remove
    cases remove
  | @detached _ attached definition _ _ status' found defined called =>
    cases status.symm.trans status'
    refine ⟨.inr ⟨_, rfl⟩, Pod.ofPod_detached lasting status _, [⟨attached, network, definition⟩],
      perm_detachOne found, by rw [called]; rfl, fun d hd => ?_⟩
    rw [List.mem_singleton.1 hd]
    exact ⟨List.mem_singleton_self _, Attachment.network_of_find? found, defined⟩

/-- A request to detach networks that succeeds has detached all that they refer to, each attachment
by one call. -/
theorem Tour.detached {retries : Nat} {request : Request} {networks : List Selection} {pod final : Pod}
    {s s' : PodStore} {visits : List Visit} {recorded : List Attachment}
    (tour : Tour retries request networks pod s visits (.ok final) s')
    (remove : request.direction = .remove) (own : pod.key = request.pod) (h : s.Shows pod)
    (status : Attachment.ofPod pod = .ok recorded) :
    s'.Shows final ∧ final.key = request.pod
      ∧ Attachment.ofPod final = .ok (Attachment.detachAll pod.selections recorded networks)
      ∧ ∃ detached : List Detachment,
        recorded.Perm (detached.map (·.attachment)
          ++ Attachment.detachAll pod.selections recorded networks)
        ∧ (calls (visits.flatMap Visit.exchanges)).map (·.1) = detached.map (·.call request pod)
        ∧ ∀ d ∈ detached, d.Proper networks (visits.flatMap Visit.exchanges) := by
  generalize hr : (Except.ok final : Except Fault Pod) = r at tour
  induction tour generalizing recorded with
  | done pod s =>
    cases hr
    exact ⟨h, own, status, [], by simp [Attachment.detachAll], rfl, nofun⟩
  | failed => cases hr
  | @next network networks pod pod' s m s' es visits r course rest ih =>
    rw [← own] at course
    obtain ⟨after, visited, h'⟩ := h.visit course
    obtain rfl := visited.eq_of_ok
    obtain ⟨rewritten, status', detached, perm, called, proper⟩ :=
      visited.detachment remove h.lasting status
    -- the rest is told about the pod before, since the calls and the selections are the same
    have selections : pod'.selections = pod.selections := by
      obtain rfl | ⟨updated, rfl⟩ := rewritten
      · rfl
      · exact Pod.selections_withStatus
    have call (d : Detachment) : d.call request pod' = d.call request pod := by
      obtain rfl | ⟨updated, rfl⟩ := rewritten <;> rfl
    have own' : pod'.key = request.pod := by
      obtain rfl | ⟨updated, rfl⟩ := rewritten <;> exact own
    obtain ⟨shows', own'', status'', detached', perm', called', proper'⟩ := ih own' h' status' hr
    rw [selections] at status'' perm'
    refine ⟨shows', own'', status'', detached ++ detached', ?_, ?_, fun d hd => ?_⟩
    · rw [List.map_append, List.append_assoc]
      exact perm.trans (perm'.append_left _)
    · simp only [List.flatMap_cons, Exchange.calls_append, List.map_append, called, called', call]
    · obtain hd | hd := List.mem_append.1 hd
      · obtain ⟨selected, own, defined⟩ := proper d hd
        exact ⟨by simp [List.mem_singleton.1 selected], own, by simp [defined]⟩
      · obtain ⟨selected, own, defined⟩ := proper' d hd
        exact ⟨List.mem_cons_of_mem _ selected, own, List.mem_append_right _ defined⟩

/-! ## Edits -/

/-- A network has one attachment for every interface that is asked for, and the attachment `u` if some
selection asks for none. -/
structure OneEach (network u : String) (before : List Selection) (recorded : List Attachment) :
    Prop where
  nodup : (interfacesOf network recorded).Nodup
  entries : ∀ i, i ∈ interfacesOf network recorded
    ↔ some i ∈ asked network before ∨ (none ∈ asked network before ∧ i = u)

/-- The attachment `u` is not detached although the network is gone: it is selected by name for another
network now, or those that ask for no interface do not reach it. -/
def Missed (network u : String) (before after : List Selection) (recorded : List Attachment) : Prop :=
  none ∈ asked network before ∧ (claimed after u = true
    ∨ ¬Reaches (earlier (claimed after) u (interfacesOf network recorded)) (asked network before))

instance (network u : String) (before after : List Selection) (recorded : List Attachment) :
    Decidable (Missed network u before after recorded) :=
  inferInstanceAs (Decidable (none ∈ asked network before ∧ (claimed after u = true
    ∨ ¬Reaches (earlier (claimed after) u (interfacesOf network recorded)) (asked network before))))

theorem asked_notIn {before after : List Selection} {network : String}
    (gone : ∀ t ∈ after, t.network ≠ network) :
    asked network (Selection.notIn before after) = asked network before := by
  unfold asked Selection.notIn
  rw [List.filter_filter]
  congr 1
  apply List.filter_congr
  intro t ht
  cases same : t.network == network with
  | false => rfl
  | true =>
    have unselected : t.key ∉ after.map Selection.key := by
      intro mem
      obtain ⟨t', ht', key⟩ := List.mem_map.1 mem
      exact gone t' ht' ((Selection.network_eq_of_key key).trans (beq_iff_eq.1 same))
    simpa using unselected

/-- The networks annotation of a pod is edited, and the request to detach what is gone succeeds while
nobody else writes the pod. Every attachment of a network that is gone is detached by one call that
names its interface, except for the one that was not asked for if it is missed. Doubles in foreign
fields of the status are taken to read back as they are written. -/
theorem removal_detaches_all_but_what_is_not_reached {σ : Type} {answers : σ → Exchange → σ → Prop}
    {w w' : σ} {watched es : List Exchange} {old new pod : Pod} {before after : List Selection}
    {request : Request} {retries : Nat} {s s' : PodStore} {recorded : List Attachment}
    {network u : String} (readable : Selection.ofPod old = .ok before)
    (selected : Selection.ofPod new = .ok after)
    (watch : (handleUpdate old new).Course answers w watched () w')
    (made : request ∈ requests watched) (remove : request.direction = .remove)
    (stored : s.get new.key = .ok pod) (own : pod.key = new.key)
    (present : Selection.ofPod pod = .ok after) (status : Attachment.ofPod pod = .ok recorded)
    (doubles : ∀ a ∈ recorded, ∀ m ∈ a.extra.entries, m.2.Leaves Json.Exact)
    (gone : ∀ t ∈ after, t.network ≠ network) (unasked : ∀ t ∈ before, t.interface? ≠ some u)
    (each : OneEach network u before recorded)
    (course : Attempt.Course (PodStore.Kept new.key) (reconcile retries request) s es (.ok ()) s') :
    ∃ (final : Pod) (left : List Attachment) (detached : List Detachment),
      s'.get new.key = .ok final ∧ Attachment.ofPod final = .ok left
      ∧ recorded.Perm (detached.map Detachment.attachment ++ left)
      ∧ (calls es).map (·.1) = detached.map (·.call request pod)
      ∧ (calls es).map (fun c => (c.1.command, c.1.interface))
          = detached.map (fun d => (.del, d.attachment.interface))
      ∧ (∀ d ∈ detached, d.Proper request.networks es)
      ∧ interfacesOf network left = if Missed network u before after recorded then [u] else [] := by
  obtain ⟨hpod, hnetworks⟩ := removal_of_watch watch readable selected made remove
  rw [← hpod] at course stored own ⊢
  obtain ⟨_, ⟨⟩, -⟩ | ⟨pod', m, visits, r, hr, rfl, read, tour⟩ := reconcile_course course
  obtain ⟨found, same⟩ := read.read
  cases stored.symm.trans found.symm
  have shows : m.Shows pod := by
    refine ⟨?_, fun recorded' status' => ?_⟩
    · rw [own]
      exact same.trans stored
    · cases status.symm.trans status'
      exact Attachment.lasting_of_parseList status doubles
  obtain ⟨final, rfl⟩ : ∃ final, r = .ok final := by
    cases r with
    | ok final => exact ⟨final, rfl⟩
    | error => cases hr
  obtain ⟨shows', own', status', detached, perm, called, proper⟩ :=
    tour.detached remove own shows status
  have all : pod.selections = after := by
    unfold Pod.selections
    rw [present]
    rfl
  rw [all, hnetworks] at status' perm
  have unasked' : some u ∉ asked network before := by
    intro mem
    obtain ⟨t, ht, asks⟩ := List.mem_map.1 mem
    exact unasked t (List.mem_filter.1 ht).1 asks
  have named := congrArg (List.map fun call : Plugin.Call => (call.command, call.interface)) called
  rw [List.map_map, List.map_map] at named
  refine ⟨final, _, detached, own' ▸ shows'.stored, status', perm, called, named, ?_, ?_⟩
  · exact fun d hd => ⟨(proper d hd).selected, (proper d hd).own,
      List.mem_cons_of_mem _ (proper d hd).defined⟩
  · rw [interfacesOf_detachAll, asked_notIn gone]
    exact foldl_strike each.nodup each.entries unasked'

/-- A pod with two attachments to the network `net`, of which one is asked for by name. -/
private def podWithTwo (networks : String) : Pod :=
  ⟨"ns1", "pod1", "u1", 1,
    ((∅ : Dict String).insert networksKey networks).insert statusKey
      ("[\x7b\"name\":\"ns1/net\",\"interface\":\"eth1\"\x7d,"
        ++ "\x7b\"name\":\"ns1/net\",\"interface\":\"net1\"\x7d]"),
    [⟨"c", "docker://abc"⟩]⟩

private def twoAttachments : List Attachment :=
  [⟨"ns1/net", "eth1", [], "", false, .empty, ∅⟩, ⟨"ns1/net", "net1", [], "", false, .empty, ∅⟩]

private def storeWithTwo : PodStore := (PodStore.empty.apply (podWithTwo "")).2

private def withDefinitions : (q : Action) → PodStore → q.Answer × PodStore :=
  PodStore.respond (fun key => .ok ⟨key.space, key.name, "\x7b\x7d"⟩) fun _ => ⟨none⟩

private theorem kept_withDefinitions (key : ObjectKey) (q : Action) (s : PodStore) :
    s.Kept key ⟨q, (withDefinitions q s).1⟩ (withDefinitions q s).2 :=
  PodStore.kept_respond _ _ key q s

private theorem status_podWithTwo (networks : String) :
    Attachment.ofPod (podWithTwo networks) = .ok twoAttachments := by
  have status : (podWithTwo networks).annotated? statusKey
      = some ("[\x7b\"name\":\"ns1/net\",\"interface\":\"eth1\"\x7d,"
        ++ "\x7b\"name\":\"ns1/net\",\"interface\":\"net1\"\x7d]") :=
    Dict.get?_insert_self _ _ _
  rw [Attachment.ofPod, status]
  exact mem_toOption.1 (by decide +kernel)

private theorem exact_twoAttachments :
    ∀ a ∈ twoAttachments, ∀ m ∈ a.extra.entries, m.2.Leaves Json.Exact := by
  have plain : ∀ a ∈ twoAttachments, a.extra.entries = [] := by decide
  intro a ha m hm
  rw [plain a ha] at hm
  cases hm

/-- If the named selection comes first, both attachments are detached. -/
theorem both_attachments_are_detached :
    let named : Selection := ⟨"net", "ns1", some "eth1", [], none, [], none⟩
    let unnamed : Selection := ⟨"net", "ns1", none, [], none, [], none⟩
    let request : Request := ⟨⟨"ns1", "pod1"⟩, .remove, [named, unnamed], ""⟩
    ∃ (es : List Exchange) (s' : PodStore) (final : Pod) (left : List Attachment)
      (detached : List Detachment),
      Attempt.Course (PodStore.Kept ⟨"ns1", "pod1"⟩) (reconcile 5 request) storeWithTwo es (.ok ()) s'
        ∧ s'.get ⟨"ns1", "pod1"⟩ = .ok final ∧ Attachment.ofPod final = .ok left
        ∧ twoAttachments.Perm (detached.map Detachment.attachment ++ left)
        ∧ interfacesOf "ns1/net" left = [] := by
  intro named unnamed request
  have watch := Program.course_run (kept_withDefinitions ⟨"ns1", "pod1"⟩)
    (handleUpdate (podWithTwo "net@eth1,net") (podWithTwo "")) storeWithTwo
  have made : request ∈ requests ((handleUpdate (podWithTwo "net@eth1,net") (podWithTwo "")).exchanges
      withDefinitions storeWithTwo) := by
    decide +kernel
  have course := Program.course_run (kept_withDefinitions ⟨"ns1", "pod1"⟩)
    (reconcile 5 request).run storeWithTwo
  rw [show ((reconcile 5 request).run.run withDefinitions storeWithTwo).1 = .ok () from
    mem_toOption.1 (by decide +kernel)] at course
  have readable : Selection.ofPod (podWithTwo "net@eth1,net") = .ok [named, unnamed] :=
    mem_toOption.1 (by decide +kernel)
  have selected : Selection.ofPod (podWithTwo "") = .ok [] :=
    mem_toOption.1 (by decide +kernel)
  have each : OneEach "ns1/net" "net1" [named, unnamed] twoAttachments := by
    refine ⟨by decide, fun i => ?_⟩
    rw [show interfacesOf "ns1/net" twoAttachments = ["eth1", "net1"] by decide,
      show asked "ns1/net" [named, unnamed] = [some "eth1", none] by decide]
    simp
  obtain ⟨final, left, detached, stored, status, perm, -, -, -, all⟩ :=
    removal_detaches_all_but_what_is_not_reached readable selected watch made rfl rfl rfl selected
      (status_podWithTwo "") exact_twoAttachments nofun (by decide) each course
  rw [if_neg (by decide)] at all
  exact ⟨_, _, final, left, detached, course, stored, status, perm, all⟩

/-- If the unnamed selection comes first, it takes the attachment that is asked for by name, and the
other one is left although the request succeeds. -/
theorem unnamed_attachment_is_left :
    let named : Selection := ⟨"net", "ns1", some "eth1", [], none, [], none⟩
    let unnamed : Selection := ⟨"net", "ns1", none, [], none, [], none⟩
    let request : Request := ⟨⟨"ns1", "pod1"⟩, .remove, [unnamed, named], ""⟩
    ∃ (old new : Pod) (watched es : List Exchange) (s s' s'' : PodStore) (final : Pod)
      (left : List Attachment),
      Selection.ofPod old = .ok [unnamed, named] ∧ Selection.ofPod new = .ok []
        ∧ (handleUpdate old new).Course (PodStore.Kept new.key) s watched () s'
        ∧ request ∈ requests watched
        ∧ s.get new.key = .ok new ∧ Attachment.ofPod new = .ok twoAttachments
        ∧ OneEach "ns1/net" "net1" [unnamed, named] twoAttachments
        ∧ Attempt.Course (PodStore.Kept new.key) (reconcile 5 request) s es (.ok ()) s''
        ∧ s''.get new.key = .ok final ∧ Attachment.ofPod final = .ok left
        ∧ interfacesOf "ns1/net" left = ["net1"] := by
  intro named unnamed request
  have watch := Program.course_run (kept_withDefinitions ⟨"ns1", "pod1"⟩)
    (handleUpdate (podWithTwo "net,net@eth1") (podWithTwo "")) storeWithTwo
  have made : request ∈ requests ((handleUpdate (podWithTwo "net,net@eth1") (podWithTwo "")).exchanges
      withDefinitions storeWithTwo) := by
    decide +kernel
  have course := Program.course_run (kept_withDefinitions ⟨"ns1", "pod1"⟩)
    (reconcile 5 request).run storeWithTwo
  rw [show ((reconcile 5 request).run.run withDefinitions storeWithTwo).1 = .ok () from
    mem_toOption.1 (by decide +kernel)] at course
  have each : OneEach "ns1/net" "net1" [unnamed, named] twoAttachments := by
    refine ⟨by decide, fun i => ?_⟩
    rw [show interfacesOf "ns1/net" twoAttachments = ["eth1", "net1"] by decide,
      show asked "ns1/net" [unnamed, named] = [none, some "eth1"] by decide]
    simp [or_comm]
  obtain ⟨final, stored, left, status, one⟩ :
      ∃ final ∈ (((reconcile 5 request).run.run withDefinitions storeWithTwo).2.get
          ⟨"ns1", "pod1"⟩).toOption,
        ∃ left ∈ (Attachment.ofPod final).toOption, interfacesOf "ns1/net" left = ["net1"] := by
    decide +kernel
  exact ⟨podWithTwo "net,net@eth1", podWithTwo "", _, _, storeWithTwo, _, _, final, left,
    mem_toOption.1 (by decide +kernel), mem_toOption.1 (by decide +kernel), watch,
    made, rfl, status_podWithTwo "", each, course, mem_toOption.1 stored,
    mem_toOption.1 status, one⟩

end NetAttach
