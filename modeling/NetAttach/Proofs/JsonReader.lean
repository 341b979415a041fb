-- SUMMARY: Kept documents and records are read from their own documents as they were.
import NetAttach.Proofs.JsonText
import NetAttach.Json.Reader
import Mathlib.Data.List.Forall2
import Mathlib.Data.List.Induction

/-!
# Documents read again

A document that was kept is kept as it is the next time, and all of it can be written.
A record that leaves out its empty fields is read with the values that stand for them.
-/

namespace NetAttach

/-! ## Dictionaries -/

namespace Dict

variable {α : Type}

theorem insertEntry_eq_append {k : String} {v : α} {es : List (String × α)}
    (h : ∀ e ∈ es, compare e.1 k = .lt) : insertEntry k v es = es ++ [(k, v)] := by
  induction es with
  | nil => rfl
  | cons e es ih =>
    have greater : compare k e.1 = .gt := Std.OrientedCmp.gt_iff_lt.2 (h e (by simp))
    rw [insertEntry, greater]
    simp [ih fun e he => h e (List.mem_cons_of_mem _ he)]

theorem entries_foldl_insert (d : Dict α) (es : List (String × α))
    (h : (d.entries ++ es).Pairwise fun a b => compare a.1 b.1 = .lt) :
    (es.foldl (fun d e => d.insert e.1 e.2) d).entries = d.entries ++ es := by
  induction es generalizing d with
  | nil => simp
  | cons e es ih =>
    have last : (d.insert e.1 e.2).entries = d.entries ++ [e] :=
      insertEntry_eq_append fun x hx => (List.pairwise_append.1 h).2.2 x hx e (by simp)
    rw [List.foldl_cons, ih, last, List.append_assoc]
    · rfl
    · rwa [last, List.append_assoc]

/-- A dictionary is made of its own entries. -/
theorem ofList_entries (d : Dict α) : ofList d.entries = d := by
  have same : (ofList d.entries).entries = d.entries := entries_foldl_insert empty d.entries d.sorted
  generalize ofList d.entries = c at same
  cases c
  cases d
  cases same
  rfl

theorem mem_of_mem_ofList {es : List (String × α)} {x : String × α}
    (h : x ∈ (ofList es).entries) : x ∈ es := by
  have all : ∀ (es : List (String × α)) (d : Dict α),
      x ∈ (es.foldl (fun d e => d.insert e.1 e.2) d).entries → x ∈ d.entries ∨ x ∈ es := by
    intro es
    induction es with
    | nil => exact fun d hx => .inl hx
    | cons e es ih =>
      intro d hx
      obtain hx | hx := ih _ hx
      · obtain rfl | hx := mem_insertEntry hx
        · exact .inr (by simp)
        · exact .inl hx
      · exact .inr (List.mem_cons_of_mem _ hx)
  obtain hx | hx := all es empty h
  · cases hx
  · exact hx

/-- The last value of a repeated key stands. -/
theorem get?_ofList (es : List (String × α)) (k : String) : (ofList es).get? k = es.reverse.lookup k := by
  induction es using List.reverseRecOn with
  | nil => rfl
  | append_singleton es e ih =>
    rw [ofList, List.foldl_append, List.reverse_append, ← ofList]
    exact (get?_insert _ _ _ _).trans (ih ▸ (lookup_entry k e es.reverse).symm)

end Dict

namespace Json

/-! ## Kept documents -/

/-- A document that is kept as it is, all of which denotes something. -/
structure Kept (room : Nat) (j : Json) : Prop where
  same : keep room j = some j
  usable : j.Leaves (· ≠ .unusable)

theorem keepMembers_eq_self {room : Nat} {ms : List (String × Json)}
    (h : ∀ m ∈ ms, Kept room m.2) : keepMembers room ms = some ms := by
  induction ms with
  | nil => rfl
  | cons m ms ih =>
    have others := ih fun n hn => h n (List.mem_cons_of_mem _ hn)
    simp [keepMembers, (h m (by simp)).same, others]

theorem keepItems_eq_self {room : Nat} {xs : List Json} (h : ∀ x ∈ xs, Kept room x) :
    keepItems room xs = some xs := by
  induction xs with
  | nil => rfl
  | cons x xs ih =>
    have others := ih fun y hy => h y (List.mem_cons_of_mem _ hy)
    simp [keepItems, (h x (by simp)).same, others]

theorem Kept.of_leaf {room : Nat} {j : Json} (same : keep room j = some j)
    (usable : j.Leaves (· ≠ .unusable)) {k : Json} (h : keep room j = some k) :
    Kept room k ∧ ∀ p, j.Leaves p → k.Leaves p := by
  rw [same] at h
  cases h
  exact ⟨⟨same, usable⟩, fun _ hp => hp⟩

theorem Kept.of_items {room : Nat} {xs : List Json} (h : ∀ x ∈ xs, Kept room x) :
    Kept (room + 1) (.arr xs) :=
  ⟨by simp [keep, keepItems_eq_self h], leavesOfItems_iff.2 fun x hx => (h x hx).usable⟩

theorem Kept.of_members {room : Nat} {d : Dict Json} (h : ∀ m ∈ d.entries, Kept room m.2) :
    Kept (room + 1) (ofDict d) :=
  ⟨by simp [keep, keepMembers_eq_self h, ofDict, Dict.ofList_entries],
    leavesOfMembers_iff.2 fun m hm => (h m hm).usable⟩

mutual

/-- What is kept once is kept as it is from then on, and holds no other leaves. -/
theorem kept_of_keep {room : Nat} (j : Json) {k : Json} (h : keep room j = some k) :
    Kept room k ∧ ∀ p, j.Leaves p → k.Leaves p := by
  cases j with
  | arr xs =>
    cases room with
    | zero => cases h
    | succ room =>
      rw [keep] at h
      obtain ⟨ys, hys, rfl⟩ := Option.map_eq_some_iff.1 h
      have kept := kept_of_keepItems xs hys
      refine ⟨.of_items fun y hy => (kept y hy).1, fun p hp => ?_⟩
      exact leavesOfItems_iff.2 fun y hy => (kept y hy).2 p hp
  | obj ms =>
    cases room with
    | zero => cases h
    | succ room =>
      rw [keep] at h
      obtain ⟨ns, hns, rfl⟩ := Option.map_eq_some_iff.1 h
      have kept := kept_of_keepMembers ms hns
      refine ⟨.of_members fun n hn => (kept n (Dict.mem_of_mem_ofList hn)).1, fun p hp => ?_⟩
      exact leavesOfMembers_iff.2 fun n hn => (kept n (Dict.mem_of_mem_ofList hn)).2 p hp
  | unusable => simp [keep] at h
  | _ => exact Kept.of_leaf (by simp [keep]) (by simp [Leaves]) h

theorem kept_of_keepItems {room : Nat} (xs : List Json) {ys : List Json}
    (h : keepItems room xs = some ys) :
    ∀ y ∈ ys, Kept room y ∧ ∀ p, LeavesOfItems p xs → y.Leaves p := by
  cases xs with
  | nil => cases h; exact nofun
  | cons x xs =>
    rw [keepItems] at h
    obtain ⟨y, hy, h⟩ := Option.bind_eq_some_iff.1 h
    obtain ⟨ys, hys, h⟩ := Option.bind_eq_some_iff.1 h
    cases h
    have first := kept_of_keep x hy
    have others := kept_of_keepItems xs hys
    intro z hz
    obtain rfl | hz := List.mem_cons.1 hz
    · exact ⟨first.1, fun p hp => first.2 p hp.1⟩
    · exact ⟨(others z hz).1, fun p hp => (others z hz).2 p hp.2⟩

theorem kept_of_keepMembers {room : Nat} (ms : List (String × Json)) {ns : List (String × Json)}
    (h : keepMembers room ms = some ns) :
    ∀ n ∈ ns, Kept room n.2 ∧ ∀ p, LeavesOfMembers p ms → n.2.Leaves p := by
  cases ms with
  | nil => cases h; exact nofun
  | cons m ms =>
    rw [keepMembers] at h
    obtain ⟨v, hv, h⟩ := Option.bind_eq_some_iff.1 h
    obtain ⟨ns, hns, h⟩ := Option.bind_eq_some_iff.1 h
    cases h
    have first := kept_of_keep m.2 hv
    have others := kept_of_keepMembers ms hns
    intro n hn
    obtain rfl | hn := List.mem_cons.1 hn
    · exact ⟨first.1, fun p hp => first.2 p hp.1⟩
    · exact ⟨(others n hn).1, fun p hp => (others n hn).2 p hp.2⟩

end

/-- Every member is kept under its key. -/
theorem forall₂_of_keepMembers {room : Nat} {ms ns : List (String × Json)}
    (h : keepMembers room ms = some ns) :
    List.Forall₂ (fun m n => n.1 = m.1 ∧ keep room m.2 = some n.2) ms ns := by
  induction ms generalizing ns with
  | nil => cases h; exact .nil
  | cons m ms ih =>
    rw [keepMembers] at h
    obtain ⟨v, hv, h⟩ := Option.bind_eq_some_iff.1 h
    obtain ⟨ns, hns, h⟩ := Option.bind_eq_some_iff.1 h
    cases h
    exact .cons ⟨rfl, hv⟩ (ih hns)

theorem lookup_of_forall₂ {room : Nat} {ms ns : List (String × Json)} (k : String)
    (h : List.Forall₂ (fun m n => n.1 = m.1 ∧ keep room m.2 = some n.2) ms ns) :
    ns.lookup k = (ms.lookup k).bind (keep room) := by
  induction h with
  | nil => rfl
  | cons same _ ih =>
    rw [lookup_entry, lookup_entry, same.1, ih]
    split
    · exact same.2.symm
    · rfl

theorem key_of_keepMembers {room : Nat} {ms ns : List (String × Json)}
    (h : keepMembers room ms = some ns) : ns.map (·.1) = ms.map (·.1) := by
  induction ms generalizing ns with
  | nil => cases h; rfl
  | cons m ms ih =>
    rw [keepMembers] at h
    obtain ⟨v, -, h⟩ := Option.bind_eq_some_iff.1 h
    obtain ⟨ns, hns, h⟩ := Option.bind_eq_some_iff.1 h
    cases h
    simp [ih hns]

/-! ## Records -/

theorem distinctKeys_iff {ms : List (String × Json)} :
    distinctKeys ms = true ↔ (ms.map (·.1)).Nodup := by
  induction ms with
  | nil => simp [distinctKeys]
  | cons m ms ih => simp [distinctKeys, ih]; grind

/-- Members that stand for fields with these names, in this order. -/
inductive Named : List String → List (Option (String × Json)) → Prop where
  | nil : Named [] []
  | cons {k : String} {m : Option (String × Json)} {ks : List String}
    {ms : List (Option (String × Json))} (named : ∀ e, m = some e → e.1 = k) (rest : Named ks ms) :
    Named (k :: ks) (m :: ms)

theorem named_memberUnless {empty : Bool} {k : String} {v : Json} (e : String × Json)
    (h : memberUnless empty k v = some e) : e.1 = k := by
  unfold memberUnless at h
  split at h <;> cases h
  rfl

theorem named_member? {k : String} {v : Option Json} (e : String × Json)
    (h : member? k v = some e) : e.1 = k := by
  obtain ⟨w, -, rfl⟩ := Option.map_eq_some_iff.1 h
  rfl

theorem Named.sublist {ks : List String} {ms : List (Option (String × Json))} (h : Named ks ms) :
    ((ms.filterMap id).map (·.1)).Sublist ks := by
  induction h with
  | nil => exact .slnil
  | @cons k m ks ms named rest ih =>
    cases m with
    | none => exact ih.cons k
    | some e => simpa [named e rfl] using ih.cons_cons k

/-- The fields of a record that is followed by members with other names. -/
theorem objectFields_record {names : List String} (distinct : names.Nodup)
    {ms : List (Option (String × Json))} (named : Named names ms) {others : List (String × Json)}
    (unknown : ∀ m ∈ others, m.1 ∉ names) (room : Nat) :
    objectFields names room (ms.filterMap id ++ others) = some ⟨room, ms.filterMap id⟩ := by
  have known : ∀ m ∈ ms.filterMap id, m.1 ∈ names := fun m hm =>
    named.sublist.subset (List.mem_map_of_mem hm)
  have fields : (ms.filterMap id ++ others).filter (fun m => names.contains m.1)
      = ms.filterMap id := by
    rw [List.filter_append, List.filter_eq_self.2 (by simpa using known),
      List.filter_eq_nil_iff.2 (by simpa using unknown), List.append_nil]
  unfold objectFields
  rw [fields, if_pos (distinctKeys_iff.2 (distinct.sublist named.sublist))]

/-- The value of a member that is left out if it is empty. -/
theorem lookup_memberUnless (empty : Bool) (k k' : String) (v : Json)
    (ms : List (Option (String × Json))) :
    ((memberUnless empty k v :: ms).filterMap id).lookup k'
      = if k' = k ∧ empty = false then some v else (ms.filterMap id).lookup k' := by
  unfold memberUnless
  cases empty with
  | true => simp
  | false =>
    by_cases hk : k' = k
    · simp [hk]
    · have : (k' == k) = false := beq_eq_false_iff_ne.2 hk
      simp [List.lookup_cons, hk, this]

theorem lookup_member? (k k' : String) (v : Option Json) (ms : List (Option (String × Json))) :
    ((member? k v :: ms).filterMap id).lookup k'
      = if k' = k ∧ v.isSome then v else (ms.filterMap id).lookup k' := by
  cases v with
  | none => simp [member?]
  | some v => simpa [member?, memberUnless] using lookup_memberUnless false k k' v ms

theorem lookup_member (k k' : String) (v : Json) (ms : List (Option (String × Json))) :
    ((member k v :: ms).filterMap id).lookup k'
      = if k' = k then some v else (ms.filterMap id).lookup k' := by
  simpa [member, memberUnless] using lookup_memberUnless false k k' v ms

/-- A field that is left out when it is empty is read with the value that stands for it. -/
theorem default_of_lookup {α : Type} {f : Fields} {k : String} {r : Reader α} {a x : α}
    {v : Json} {e : Bool} (lookup : f.present.lookup k = if e = false then some v else none)
    (read : r f.room v = some x) (stands : e = true → a = x) :
    f.default k r a = some x := by
  unfold Fields.default
  rw [lookup]
  cases e with
  | true => exact congrArg some (stands rfl)
  | false => exact read

/-- An optional field is read again if it is never written as `null`. -/
theorem optional_of_lookup {α : Type} {f : Fields} {k : String} {r : Reader α} {x : Option α}
    {w : α → Json} (lookup : f.present.lookup k = x.map w)
    (read : ∀ a, x = some a → r f.room (w a) = some a) (present : ∀ a, w a ≠ .null) :
    f.optional k r = some x := by
  unfold Fields.optional Fields.default
  rw [lookup]
  cases x with
  | none => rfl
  | some a =>
    have := present a
    have := read a rfl
    simp only [Option.map_some]
    unfold Json.optional
    split
    · contradiction
    · simp [this]

theorem mapM_map_eq_self {α β : Type} {f : α → β} {g : β → Option α} {xs : List α}
    (h : ∀ x ∈ xs, g (f x) = some x) : (xs.map f).mapM g = some xs := by
  induction xs with
  | nil => rfl
  | cons x xs ih => simp [h x (by simp), ih fun y hy => h y (List.mem_cons_of_mem _ hy)]

theorem listOf_texts (room : Nat) (ss : List String) : listOf text (room + 1) (texts ss) = some ss :=
  mapM_map_eq_self fun _ _ => rfl

theorem printable_str (s : String) : (str s).Printable := ⟨nofun, nofun, nofun⟩

theorem printable_texts (ss : List String) : (texts ss).Printable := by
  refine leavesOfItems_iff.2 fun x hx => ?_
  obtain ⟨s, -, rfl⟩ := List.mem_map.1 hx
  exact printable_str s

theorem printable_member {k : String} {v : Json} (h : v.Printable) (m : String × Json)
    (hm : member k v = some m) : m.2.Printable := by
  cases hm
  exact h

theorem printable_memberUnless {empty : Bool} {k : String} {v : Json} (h : v.Printable)
    (m : String × Json) (hm : memberUnless empty k v = some m) : m.2.Printable := by
  unfold memberUnless at hm
  split at hm <;> cases hm
  exact h

theorem printable_member? {k : String} {v : Option Json} (h : ∀ j, v = some j → j.Printable)
    (m : String × Json) (hm : member? k v = some m) : m.2.Printable := by
  obtain ⟨j, hj, rfl⟩ := Option.map_eq_some_iff.1 hm
  exact h j hj

theorem printable_option {α : Type} {k : String} {x : Option α} {w : α → Json}
    (h : ∀ a, x = some a → (w a).Printable) :
    ∀ m, member? k (x.map w) = some m → m.2.Printable := by
  refine printable_member? fun j hj => ?_
  obtain ⟨a, ha, rfl⟩ := Option.map_eq_some_iff.1 hj
  exact h a ha

/-- A record can be written if all its members can. -/
theorem printable_obj {ms : List (Option (String × Json))} {others : List (String × Json)}
    (h : ∀ o ∈ ms, ∀ m, o = some m → m.2.Printable) (hothers : ∀ m ∈ others, m.2.Printable) :
    (obj (ms.filterMap id ++ others)).Printable := by
  refine leavesOfMembers_iff.2 fun m hm => ?_
  obtain hm | hm := List.mem_append.1 hm
  · obtain ⟨o, ho, hom⟩ := List.mem_filterMap.1 hm
    exact h o ho m hom
  · exact hothers m hm

theorem printable_record {ms : List (Option (String × Json))}
    (h : ∀ o ∈ ms, ∀ m, o = some m → m.2.Printable) : (record ms).Printable := by
  have printable := printable_obj h (List.forall_mem_nil _)
  rwa [List.append_nil] at printable

/-- The fields of a record that is written with its own names are all that is present. -/
theorem recordFields_record {names : List String} {ms : List (Option (String × Json))}
    (distinct : names.Nodup) (named : Named names ms) (room : Nat) :
    recordFields names (room + 1) (record ms) = some ⟨room, ms.filterMap id⟩ := by
  have fields := objectFields_record distinct named (List.forall_mem_nil _) room
  rwa [List.append_nil] at fields

/-! ## Values read again -/

/-- A value is read as it is from how it is written, and all of that can be written. -/
structure Rereads {α : Type} (r : Reader α) (w : α → Json) (room : Nat) (a : α) : Prop where
  read : r room (w a) = some a
  printable : (w a).Printable

section

variable {α : Type} {r : Reader α} {w : α → Json} {room : Nat}

theorem rereads_text (s : String) : Rereads text .str room s := ⟨rfl, printable_str s⟩

theorem rereads_word {n : Nat} (fits : n ≤ maxWord) : Rereads word (fun n => .int n) room n := by
  refine ⟨if_pos fits, ?_, nofun, nofun⟩
  rintro i ⟨⟩
  omega

theorem Rereads.list {as : List α} (items : ∀ a ∈ as, Rereads r w room a) :
    Rereads (listOf r) (fun as => .arr (as.map w)) (room + 1) as := by
  refine ⟨mapM_map_eq_self fun a mem => (items a mem).read, leavesOfItems_iff.2 fun j hj => ?_⟩
  obtain ⟨a, mem, rfl⟩ := List.mem_map.1 hj
  exact (items a mem).printable

theorem Rereads.dict {d : Dict α} (values : ∀ e ∈ d.entries, Rereads r w room e.2) :
    Rereads (dictOf r) (fun d => .obj (d.entries.map fun e => (e.1, w e.2))) (room + 1) d := by
  constructor
  · have entries : (d.entries.map fun e => (e.1, w e.2)).mapM (fun m => (r room m.2).map (m.1, ·))
        = some d.entries :=
      mapM_map_eq_self fun e mem => by simp [(values e mem).read]
    simp [dictOf, entries, Dict.ofList_entries]
  · refine leavesOfMembers_iff.2 fun m hm => ?_
    obtain ⟨e, mem, rfl⟩ := List.mem_map.1 hm
    exact (values e mem).printable

/-- What is kept can be written if its numbers can. -/
theorem Kept.printable {j : Json} (h : Kept room j) (range : j.Leaves InRange)
    (exact : j.Leaves Exact) : j.Printable :=
  leaves_and _ range (leaves_and _ exact h.usable)

theorem Kept.rereads {j : Json} (h : Kept room j) (printable : j.Printable) :
    Rereads keep id room j := ⟨h.same, printable⟩

end

end Json

end NetAttach
