-- SUMMARY: What is recorded after networks were attached and detached one after the other.
import NetAttach.Attachment.Annotation

/-!
# Attaching and detaching

Networks are attached in their order up to the first that asks for an interface which
is recorded for another network, and are all detached. Both go by the attachments that
the selections of the pod refer to. What a selection refers to depends on its slot, which
is its network and the interface that it asks for.
-/

namespace NetAttach

namespace Selection

/-- All that matters of a selection for the attachments that it refers to. -/
def slot (s : Selection) : String × Option String := (s.network, s.interface?)

/-- An interface is not asked for under two keys. -/
def Apart (all : List Selection) : Prop :=
  ∀ s ∈ all, ∀ t ∈ all, ∀ i, s.interface? = some i → t.interface? = some i → s.key = t.key

instance (all : List Selection) : Decidable (Apart all) :=
  inferInstanceAs (Decidable (∀ s ∈ all, ∀ t ∈ all, ∀ i ∈ s.interface?, i ∈ t.interface? →
    s.key = t.key))

theorem network_eq_of_key {s t : Selection} (h : s.key = t.key) : s.network = t.network := by
  simp only [key, SelectionKey.mk.injEq] at h
  simp [network, h]

end Selection

namespace Attachment

variable {all : List Selection} {recorded made updated : List Attachment} {a : Attachment}
  {s t : Selection} {networks : List Selection} {ok : Bool}

/-! ## What a selection refers to -/

theorem matchesSelection_iff :
    a.matchesSelection s all = true ↔ a.network = s.network
      ∧ ((∃ i, s.interface? = some i ∧ a.interface = i)
        ∨ (s.interface? = none ∧ ∀ t ∈ all, t.interface? ≠ some a.interface)) := by
  unfold matchesSelection
  cases s.interface? with
  | none => simp
  | some i =>
    simp only [Bool.and_eq_true, beq_iff_eq, Option.some.injEq, exists_eq_left', reduceCtorEq,
      false_and, or_false]

theorem matchesSelection_congr (h : s.slot = t.slot) :
    a.matchesSelection s all = a.matchesSelection t all := by
  simp only [Selection.slot, Prod.mk.injEq] at h
  simp [matchesSelection, h]

/-- An attachment that a selection refers to is recorded. -/
def Attached (recorded : List Attachment) (s : Selection) (all : List Selection) : Prop :=
  ∃ a ∈ recorded, a.matchesSelection s all = true

instance : Decidable (Attached recorded s all) :=
  inferInstanceAs (Decidable (∃ a ∈ recorded, a.matchesSelection s all = true))

theorem matches_of_find? (found : find? recorded s all = some a) :
    a.matchesSelection s all = true :=
  List.find?_some (p := fun b : Attachment => b.matchesSelection s all) found

theorem network_of_find? (found : find? recorded s all = some a) : a.network = s.network :=
  (matchesSelection_iff.1 (matches_of_find? found)).1

theorem find?_isSome : (find? recorded s all).isSome = true ↔ Attached recorded s all := by
  simp [find?, Attached]

theorem find?_eq_none : find? recorded s all = none ↔ ¬Attached recorded s all := by
  rw [← find?_isSome]
  simp

theorem Attached.congr (h : Attached recorded s all) (slot : s.slot = t.slot) :
    Attached recorded t all := by
  obtain ⟨a, ha, hs⟩ := h
  exact ⟨a, ha, matchesSelection_congr slot ▸ hs⟩

theorem Attached.mono (h : Attached recorded s all) (sub : ∀ a ∈ recorded, a ∈ updated) :
    Attached updated s all := by
  obtain ⟨a, ha, hs⟩ := h
  exact ⟨a, sub a ha, hs⟩

theorem attached_append :
    Attached (recorded ++ made) s all ↔ Attached recorded s all ∨ Attached made s all := by
  simp [Attached, or_and_right, exists_or]

/-! ## Attaching -/

/-- An attachment that a plugin makes for a selection: with the interface that is asked for, or
with one that is new to the pod and that nothing asks for. -/
structure Makes (all : List Selection) (recorded : List Attachment) (s : Selection)
    (a : Attachment) : Prop where
  network : a.network = s.network
  asked : ∀ i, s.interface? = some i → a.interface = i
  free : s.interface? = none → ∀ t ∈ all, t.interface? ≠ some a.interface
  fresh : ∀ b ∈ recorded, b.interface ≠ a.interface

theorem Makes.matches {recorded : List Attachment} (h : Makes all recorded s a) :
    a.matchesSelection s all = true := by
  refine matchesSelection_iff.2 ⟨h.network, ?_⟩
  cases hs : s.interface? with
  | some i => exact .inl ⟨i, rfl, h.asked i hs⟩
  | none => exact .inr ⟨rfl, h.free hs⟩

/-- Networks are attached one after the other, all of them or up to one whose interface is taken. -/
inductive Attaching (all : List Selection) :
    List Attachment → List Selection → List Attachment → Bool → Prop where
  | done (recorded : List Attachment) : Attaching all recorded [] recorded true
  | present {recorded updated : List Attachment} {s : Selection} {networks : List Selection}
    {ok : Bool} (attached : Attached recorded s all)
    (rest : Attaching all recorded networks updated ok) :
    Attaching all recorded (s :: networks) updated ok
  | taken {recorded : List Attachment} {s : Selection} {i : String} (networks : List Selection)
    (new : ¬Attached recorded s all) (asked : s.interface? = some i)
    (held : ∃ b ∈ recorded, b.interface = i) :
    Attaching all recorded (s :: networks) recorded false
  | made {recorded updated : List Attachment} {s : Selection} {a : Attachment}
    {networks : List Selection} {ok : Bool} (new : ¬Attached recorded s all)
    (makes : Makes all recorded s a)
    (rest : Attaching all (recorded ++ [a]) networks updated ok) :
    Attaching all recorded (s :: networks) updated ok

/-- An attachment was made for one of the networks since the list was recorded. -/
def Stems (all : List Selection) (recorded : List Attachment) (networks : List Selection)
    (a : Attachment) : Prop :=
  ∃ s ∈ networks, ¬Attached recorded s all ∧ Makes all recorded s a

theorem Stems.mono {fewer : List Attachment} (h : Stems all recorded networks a)
    (sub : ∀ b ∈ fewer, b ∈ recorded) : Stems all fewer networks a := by
  obtain ⟨s, hs, new, makes⟩ := h
  exact ⟨s, hs, fun attached => new (attached.mono sub),
    makes.network, makes.asked, makes.free, fun b hb => makes.fresh b (sub b hb)⟩

theorem Stems.of_subset {more : List Selection} (h : Stems all recorded networks a)
    (sub : ∀ s ∈ networks, s ∈ more) : Stems all recorded more a := by
  obtain ⟨s, hs, new⟩ := h
  exact ⟨s, sub s hs, new⟩

/-- A selection that is among all of the pod, or that asks for no interface or for a recorded one. -/
def Known (all : List Selection) (recorded : List Attachment) (t : Selection) : Prop :=
  t ∈ all ∨ ∀ i, t.interface? = some i → ∃ b ∈ recorded, b.interface = i

/-- An attachment that was made for a selection is referred to from its slot only. -/
theorem Makes.slot_eq {recorded : List Attachment} (h : Makes all recorded s a) (hs : s ∈ all)
    (known : Known all recorded t) (refers : a.matchesSelection t all = true) :
    t.slot = s.slot := by
  obtain ⟨network, interface⟩ := matchesSelection_iff.1 refers
  have same : t.interface? = s.interface? := by
    cases hsi : s.interface? with
    | some i =>
      have hi := h.asked i hsi
      obtain ⟨j, hj, rfl⟩ | ⟨-, free⟩ := interface
      · rw [hj, hi]
      · exact absurd (hi ▸ hsi) (free s hs)
    | none =>
      obtain ⟨j, hj, rfl⟩ | ⟨hnone, -⟩ := interface
      · cases known with
        | inl ht => exact absurd hj (h.free hsi t ht)
        | inr held =>
          obtain ⟨b, hb, hbi⟩ := held _ hj
          exact absurd hbi (h.fresh b hb)
      · exact hnone
  simp only [Selection.slot, Prod.mk.injEq]
  exact ⟨network.symm.trans h.network, same⟩

/-- No two attachments are referred to by one known selection. -/
def Separate (all : List Selection) (recorded made : List Attachment) : Prop :=
  ∀ t, Known all recorded t →
    made.Pairwise fun a b => ¬(a.matchesSelection t all = true ∧ b.matchesSelection t all = true)

/-- What is attached is recorded behind the rest, one attachment for a slot. -/
theorem Attaching.grown (h : Attaching all recorded networks updated ok)
    (selected : ∀ s ∈ networks, s ∈ all) :
    ∃ made, updated = recorded ++ made ∧ (∀ a ∈ made, Stems all recorded networks a)
      ∧ Separate all recorded made := by
  induction h with
  | done recorded => exact ⟨[], by simp, nofun, fun _ _ => .nil⟩
  | present attached rest ih =>
    obtain ⟨made, rfl, stems, separate⟩ := ih fun s hs => selected s (List.mem_cons_of_mem _ hs)
    exact ⟨made, rfl, fun a ha => (stems a ha).of_subset (by simp +contextual), separate⟩
  | taken networks new asked held => exact ⟨[], by simp, nofun, fun _ _ => .nil⟩
  | @made recorded updated s a networks ok new makes rest ih =>
    obtain ⟨made, rfl, stems, separate⟩ := ih fun s hs => selected s (List.mem_cons_of_mem _ hs)
    refine ⟨a :: made, by simp, fun b hb => ?_, fun t known => ?_⟩
    · obtain rfl | hb := List.mem_cons.1 hb
      · exact ⟨s, by simp, new, makes⟩
      · exact ((stems b hb).mono (by simp +contextual)).of_subset (by simp +contextual)
    · have known' : Known all (recorded ++ [a]) t := known.imp id fun held i hi => by
        obtain ⟨b, hb, hbi⟩ := held i hi
        exact ⟨b, by simp [hb], hbi⟩
      refine List.pairwise_cons.2 ⟨fun b hb => ?_, separate t known'⟩
      rintro ⟨first, second⟩
      -- the later one was made for a selection that does not refer to the earlier one
      obtain ⟨n, hn, newb, makesb⟩ := stems b hb
      have slot := makesb.slot_eq (selected n (List.mem_cons_of_mem _ hn)) known' second
      exact newb ⟨a, by simp, matchesSelection_congr slot ▸ first⟩

/-- After a success all networks are attached. -/
theorem Attaching.attached (h : Attaching all recorded networks updated true) :
    ∀ s ∈ networks, Attached updated s all := by
  have sub : ∀ {recorded networks updated ok}, Attaching all recorded networks updated ok →
      ∀ a ∈ recorded, a ∈ updated := by
    intro recorded networks updated ok h
    induction h with
    | made new makes rest ih => exact fun a ha => ih a (by simp [ha])
    | present attached rest ih => exact ih
    | _ => exact fun a ha => ha
  generalize hok : true = ok at h
  induction h with
  | done recorded => exact nofun
  | present attached rest ih =>
    intro t ht
    obtain rfl | ht := List.mem_cons.1 ht
    · exact attached.mono (sub rest)
    · exact ih hok t ht
  | taken => cases hok
  | made new makes rest ih =>
    intro t ht
    obtain rfl | ht := List.mem_cons.1 ht
    · exact ⟨_, sub rest _ (by simp), makes.matches⟩
    · exact ih hok t ht

/-! ## Taken interfaces -/

/-- One of the networks asks for an interface that is recorded for another network. -/
def Blocked (all : List Selection) (recorded : List Attachment) (networks : List Selection) : Prop :=
  ∃ s ∈ networks, ∃ i, s.interface? = some i ∧ ¬Attached recorded s all
    ∧ ∃ b ∈ recorded, b.interface = i

instance : Decidable (Blocked all recorded networks) :=
  inferInstanceAs (Decidable (∃ s ∈ networks, ∃ i ∈ s.interface?, ¬Attached recorded s all
    ∧ ∃ b ∈ recorded, b.interface = i))

/-- What was made for the networks takes no interface from them, and leaves none that is taken. -/
theorem blocked_append (apart : Selection.Apart all) (selected : ∀ s ∈ networks, s ∈ all)
    (stems : ∀ a ∈ made, Stems all recorded networks a) :
    Blocked all (recorded ++ made) networks ↔ Blocked all recorded networks := by
  constructor
  · rintro ⟨s, hs, i, hi, new, b, hb, rfl⟩
    have new' : ¬Attached recorded s all := fun h => new (attached_append.2 (.inl h))
    obtain hb | hb := List.mem_append.1 hb
    · exact ⟨s, hs, _, hi, new', b, hb, rfl⟩
    · obtain ⟨n, hn, -, makes⟩ := stems b hb
      refine absurd ⟨b, List.mem_append_right _ hb, matchesSelection_iff.2 ⟨?_, .inl ⟨_, hi, rfl⟩⟩⟩ new
      cases hni : n.interface? with
      | none => exact absurd hi (makes.free hni s (selected s hs))
      | some j =>
        obtain rfl := makes.asked j hni
        have key := apart n (selected n hn) s (selected s hs) _ hni hi
        exact makes.network.trans (Selection.network_eq_of_key key)
  · rintro ⟨s, hs, i, hi, new, b, hb, rfl⟩
    refine ⟨s, hs, _, hi, fun attached => ?_, b, List.mem_append_left _ hb, rfl⟩
    obtain attached | ⟨a, ha, refers⟩ := attached_append.1 attached
    · exact new attached
    · obtain ⟨-, ⟨j, hj, haj⟩ | ⟨hnone, -⟩⟩ := matchesSelection_iff.1 refers
      · obtain ⟨n, -, -, makes⟩ := stems a ha
        rw [hi] at hj
        cases hj
        exact makes.fresh b hb haj.symm
      · rw [hi] at hnone
        cases hnone

/-- Attaching fails if and only if an interface is taken at the start, and then one is taken at
the end. -/
theorem Attaching.blocked (h : Attaching all recorded networks updated ok)
    (apart : Selection.Apart all) (selected : ∀ s ∈ networks, s ∈ all) :
    (Blocked all recorded networks ↔ ok = false) ∧ (Blocked all updated networks ↔ ok = false) := by
  have fails : ∀ {recorded networks updated ok}, Attaching all recorded networks updated ok →
      ok = false → Blocked all updated networks := by
    intro recorded networks updated ok h
    induction h with
    | done => exact nofun
    | taken networks new asked held => exact fun _ => ⟨_, by simp, _, asked, new, held⟩
    | present attached rest ih | made new makes rest ih =>
      intro hok
      obtain ⟨s, hs, blocked⟩ := ih hok
      exact ⟨s, List.mem_cons_of_mem _ hs, blocked⟩
  have same : Blocked all updated networks ↔ Blocked all recorded networks := by
    obtain ⟨made, rfl, stems, -⟩ := h.grown selected
    exact blocked_append apart selected stems
  have both : Blocked all updated networks ↔ ok = false := by
    refine ⟨fun blocked => ?_, fails h⟩
    cases ok with
    | false => rfl
    | true =>
      obtain ⟨s, hs, i, -, new, -⟩ := blocked
      exact absurd (h.attached s hs) new
  exact ⟨same.symm.trans both, both⟩

/-! ## Detaching -/

/-- Detach a network from the attachment that it refers to, if there is any. -/
def detachOne (all : List Selection) (recorded : List Attachment) (s : Selection) :
    List Attachment :=
  match find? recorded s all with
  | some a => (drop? recorded a).getD recorded
  | none => recorded

/-- Detach networks one after the other. -/
def detachAll (all : List Selection) (recorded : List Attachment) (networks : List Selection) :
    List Attachment :=
  networks.foldl (detachOne all) recorded

/-- What is found for a selection is dropped where it is found. -/
theorem detachOne_eq (recorded : List Attachment) (s : Selection) :
    detachOne all recorded s = recorded.eraseP fun a => a.matchesSelection s all := by
  unfold detachOne
  cases h : find? recorded s all with
  | none => exact (List.eraseP_of_forall_not (by simpa [find?] using h)).symm
  | some a =>
    obtain ⟨refers, front, back, rfl, none⟩ := List.find?_eq_some_iff_append.1 h
    have none : ∀ b ∈ front, b.matchesSelection s all = false := by simpa using none
    -- nothing before it has its network and its interface, since that would be found first
    have before : ∀ b ∈ front, ¬(b.network == a.network && b.interface == a.interface) = true := by
      intro b hb same
      simp only [Bool.and_eq_true, beq_iff_eq] at same
      have refers' : b.matchesSelection s all = true := by
        rw [← refers]
        simp [matchesSelection, same]
      rw [none b hb] at refers'
      cases refers'
    have dropped : drop? (front ++ a :: back) a = some (front ++ back) := by
      unfold drop?
      dsimp only
      rw [if_pos (by simp), List.eraseP_append_right _ before, List.eraseP_cons_of_pos (by simp)]
    rw [List.eraseP_append_right _ (by simpa using none), List.eraseP_cons_of_pos (by exact refers)]
    simp [dropped]

/-- Detaching loses nothing but what the networks refer to. -/
theorem detachAll_sublist (recorded : List Attachment) (networks : List Selection) :
    (detachAll all recorded networks).Sublist recorded := by
  induction networks generalizing recorded with
  | nil => exact .refl _
  | cons s networks ih =>
    refine (ih _).trans ?_
    rw [detachOne_eq]
    exact List.eraseP_sublist

/-- Of what was made behind the rest, detaching leaves what no network refers to that refers to
nothing before it. -/
theorem detachAll_append (recorded made : List Attachment) (networks : List Selection) :
    ∃ left, detachAll all (recorded ++ made) networks = detachAll all recorded networks ++ left
      ∧ left.Sublist made
      ∧ (∀ a ∈ made, a ∈ left ∨ ∃ s ∈ networks, a.matchesSelection s all = true)
      ∧ ∀ s ∈ networks, ¬Attached recorded s all →
          (made.Pairwise fun a b =>
            ¬(a.matchesSelection s all = true ∧ b.matchesSelection s all = true)) →
          ¬Attached left s all := by
  induction networks generalizing recorded made with
  | nil => exact ⟨made, rfl, .refl _, fun a ha => .inl ha, nofun⟩
  | cons s networks ih =>
    by_cases attached : Attached recorded s all
    · have here : detachOne all (recorded ++ made) s = detachOne all recorded s ++ made := by
        obtain ⟨a, ha, refers⟩ := attached
        rw [detachOne_eq, detachOne_eq, List.eraseP_append_left (by exact refers) _ ha]
      obtain ⟨left, hleft, sub, kept, gone⟩ := ih (detachOne all recorded s) made
      refine ⟨left, ?_, sub, fun a ha => ?_, fun t ht new separate => ?_⟩
      · exact (congrArg (detachAll all · networks) here).trans hleft
      · exact (kept a ha).imp id fun ⟨t, ht, refers⟩ => ⟨t, List.mem_cons_of_mem _ ht, refers⟩
      · obtain rfl | ht := List.mem_cons.1 ht
        · exact absurd attached new
        · refine gone t ht (fun h => new (h.mono fun a ha => ?_)) separate
          rw [detachOne_eq] at ha
          exact List.mem_of_mem_eraseP ha
    · have none : ∀ a ∈ recorded, ¬a.matchesSelection s all = true :=
        fun a ha refers => attached ⟨a, ha, refers⟩
      have same : detachOne all recorded s = recorded := by
        rw [detachOne_eq, List.eraseP_of_forall_not none]
      have here : detachOne all (recorded ++ made) s = recorded ++ detachOne all made s := by
        rw [detachOne_eq, detachOne_eq, List.eraseP_append_right _ none]
      have fewer : (detachOne all made s).Sublist made := by
        rw [detachOne_eq]
        exact List.eraseP_sublist
      obtain ⟨left, hleft, sub, kept, gone⟩ := ih recorded (detachOne all made s)
      refine ⟨left, ?_, sub.trans fewer, fun a ha => ?_, fun t ht new separate => ?_⟩
      · rw [← same] at hleft
        exact (congrArg (detachAll all · networks) (here.trans (by rw [same]))).trans hleft
      · by_cases refers : a.matchesSelection s all = true
        · exact .inr ⟨s, by simp, refers⟩
        · have ha' : a ∈ detachOne all made s := by
            rw [detachOne_eq]
            exact (List.mem_eraseP_of_neg (by exact refers)).2 ha
          exact (kept a ha').imp id fun ⟨t, ht, refers⟩ => ⟨t, List.mem_cons_of_mem _ ht, refers⟩
      · obtain rfl | ht := List.mem_cons.1 ht
        · intro ⟨a, ha, refers⟩
          -- the first that the network refers to is gone, and there is no second
          have ha' := sub.subset ha
          rw [detachOne_eq] at ha'
          obtain ⟨b, front, back, -, hb, rfl, hrest⟩ := List.exists_of_eraseP
            (p := fun a => a.matchesSelection t all) (List.mem_of_mem_eraseP ha') refers
          rw [hrest] at ha'
          obtain ⟨-, behind, across⟩ := List.pairwise_append.1 separate
          obtain ha' | ha' := List.mem_append.1 ha'
          · exact across a ha' b (by simp) ⟨refers, hb⟩
          · exact (List.pairwise_cons.1 behind).1 a ha' ⟨hb, refers⟩
        · exact gone t ht new (separate.sublist fewer)

/-! ## Edits -/

/-- After an edit of the selections every new one is attached in the end. Unless an interface is
taken, those that are added are attached before those that are removed are detached, and a
selection stays attached if what is left of the record holds an attachment for it, or if one was
made for its slot. Otherwise what is added is attached after what is removed is detached, if no
interface is taken any more. -/
def Survives (old new : List Selection) (recorded : List Attachment) : Prop :=
  let added := Selection.notIn new old
  let removed := Selection.notIn old new
  let left := detachAll new recorded removed
  if Blocked new recorded added then
    ¬Blocked new left added ∧ ∀ s ∈ new, Attached left s new ∨ s.slot ∈ added.map Selection.slot
  else
    ∀ s ∈ new, Attached left s new
      ∨ (¬Attached recorded s new ∧ s.slot ∈ added.map Selection.slot
        ∧ s.slot ∉ removed.map Selection.slot)

instance (old new : List Selection) (recorded : List Attachment) :
    Decidable (Survives old new recorded) := by
  unfold Survives
  infer_instance

variable {old new : List Selection}

theorem known_removed (attached : ∀ s ∈ old, Attached recorded s old) :
    ∀ s ∈ Selection.notIn old new, Known new recorded s := by
  intro s hs
  refine .inr fun i hi => ?_
  obtain ⟨a, ha, refers⟩ := attached s (Selection.mem_notIn.1 hs).1
  obtain ⟨-, ⟨j, hj, haj⟩ | ⟨hnone, -⟩⟩ := matchesSelection_iff.1 refers
  · rw [hi] at hj
    cases hj
    exact ⟨a, ha, haj⟩
  · rw [hi] at hnone
    cases hnone

theorem mem_of_mem_added : ∀ s ∈ Selection.notIn new old, s ∈ new :=
  fun _ hs => (Selection.mem_notIn.1 hs).1

theorem slot_of_stems (stems : ∀ a ∈ made, Stems new recorded (Selection.notIn new old) a)
    (known : Known new recorded s) (h : Attached made s new) :
    s.slot ∈ (Selection.notIn new old).map Selection.slot ∧ ¬Attached recorded s new := by
  obtain ⟨a, ha, refers⟩ := h
  obtain ⟨n, hn, new', makes⟩ := stems a ha
  have slot := makes.slot_eq (mem_of_mem_added n hn) known refers
  exact ⟨slot ▸ List.mem_map_of_mem hn, fun h => new' (h.congr slot)⟩

/-- If all that is added was attached at once, and what is removed was detached then, every new
selection is attached exactly if it survives. -/
theorem survives_iff_of_attached (apart : Selection.Apart new)
    (attached : ∀ s ∈ old, Attached recorded s old)
    (h : Attaching new recorded (Selection.notIn new old) updated true) :
    (∀ s ∈ new, Attached (detachAll new updated (Selection.notIn old new)) s new)
      ↔ Survives old new recorded := by
  have free : ¬Blocked new recorded (Selection.notIn new old) :=
    fun blocked => nomatch (h.blocked apart mem_of_mem_added).1.1 blocked
  obtain ⟨made, rfl, stems, separate⟩ := h.grown mem_of_mem_added
  obtain ⟨left, hleft, sub, kept, gone⟩ :=
    @detachAll_append new recorded made (Selection.notIn old new)
  have stays : ∀ s ∈ new, (Attached left s new ↔ ¬Attached recorded s new
      ∧ s.slot ∈ (Selection.notIn new old).map Selection.slot
      ∧ s.slot ∉ (Selection.notIn old new).map Selection.slot) := by
    intro s hs
    constructor
    · intro stays
      obtain ⟨slot, new'⟩ :=
        slot_of_stems stems (.inl hs) (stays.mono fun a ha => sub.subset ha)
      refine ⟨new', slot, fun removed => ?_⟩
      obtain ⟨r, hr, same⟩ := List.mem_map.1 removed
      have known := known_removed attached r hr
      exact gone r hr (fun h => new' (h.congr same)) (separate r known) (stays.congr same.symm)
    · rintro ⟨new', slot, removed⟩
      obtain ⟨n, hn, same⟩ := List.mem_map.1 slot
      obtain now | ⟨a, ha, refers⟩ := attached_append.1 ((h.attached n hn).congr same)
      · exact absurd now new'
      · refine (kept a ha).elim (fun ha => ⟨a, ha, refers⟩) fun ⟨r, hr, refers'⟩ => ?_
        obtain ⟨m, hm, -, makes⟩ := stems a ha
        have first := makes.slot_eq (mem_of_mem_added m hm) (known_removed attached r hr) refers'
        have second := makes.slot_eq (mem_of_mem_added m hm) (.inl hs) refers
        exact absurd (List.mem_map.2 ⟨r, hr, first.trans second.symm⟩) removed
  rw [Survives, if_neg free, hleft]
  simp only [attached_append]
  exact forall₂_congr fun s hs => or_congr_right (stays s hs)

/-- If an interface was taken, what is removed was detached, and what is added was tried again,
every new selection is attached exactly if it survives. -/
theorem survives_iff_of_blocked {final : List Attachment} (apart : Selection.Apart new)
    (h : Attaching new recorded (Selection.notIn new old) updated false)
    (again : ∀ left, left = detachAll new updated (Selection.notIn old new) →
      (¬Blocked new left (Selection.notIn new old)
          ∧ Attaching new left (Selection.notIn new old) final true)
        ∨ (Blocked new left (Selection.notIn new old)
          ∧ Blocked new final (Selection.notIn new old))) :
    (∀ s ∈ new, Attached final s new) ↔ Survives old new recorded := by
  have taken := (h.blocked apart mem_of_mem_added).1.2 rfl
  obtain ⟨made, rfl, stems, -⟩ := h.grown mem_of_mem_added
  obtain ⟨left, hleft, sub, -⟩ :=
    @detachAll_append new recorded made (Selection.notIn old new)
  have stems' : ∀ a ∈ left,
      Stems new (detachAll new recorded (Selection.notIn old new)) (Selection.notIn new old) a :=
    fun a ha => (stems a (sub.subset ha)).mono
      fun b hb => (detachAll_sublist recorded _).subset hb
  have same := blocked_append apart mem_of_mem_added stems'
  rw [Survives, if_pos taken]
  obtain ⟨free, success⟩ | ⟨blocked, stuck⟩ := again _ hleft.symm
  · rw [and_iff_right (mt same.2 free)]
    obtain ⟨more, rfl, stems'', -⟩ := success.grown mem_of_mem_added
    refine forall₂_congr fun s hs => ⟨fun now => ?_, ?_⟩
    · obtain now | now := attached_append.1 now
      · exact (attached_append.1 now).imp id fun now => (slot_of_stems stems' (.inl hs) now).1
      · exact .inr (slot_of_stems stems'' (.inl hs) now).1
    · rintro (now | slot)
      · exact now.mono (by simp +contextual)
      · obtain ⟨n, hn, same⟩ := List.mem_map.1 slot
        exact (success.attached n hn).congr same
  · refine iff_of_false (fun all => ?_) fun survives => survives.1 (same.1 blocked)
    obtain ⟨s, hs, i, -, new', -⟩ := stuck
    exact new' (all s (mem_of_mem_added s hs))

end Attachment

end NetAttach
