-- SUMMARY: What a shape knows of a document has the shape again, and all the members that it knows.
import NetAttach.Json.Shape
import NetAttach.Proofs.JsonText

/-!
# What is known of a document

A document loses members that its shape does not know when it is written again. What is left of
it is of the shape still, and every member that is known stands where it stood, with what is
known of it.
-/

namespace NetAttach.Json.Shape

/-! ## Members that are known -/

/-- A member is known if there is a shape for its key. -/
theorem knownMember_eq (members : List (String × Shape)) (k : String) (j : Json) :
    knownMember members k j = (members.lookup k).map (·.known j) := by
  induction members with
  | nil => rfl
  | cons m others ih =>
    obtain ⟨name, s⟩ := m
    rw [knownMember, lookup_entry, ih]
    by_cases same : name = k
    · rw [if_pos same, if_pos same.symm]
      rfl
    · rw [if_neg same, if_neg (Ne.symm same)]

theorem lookup_known (members : List (String × Shape)) (k : String) (ms : List (String × Json)) :
    (ms.filterMap fun m => (knownMember members m.1 m.2).map (m.1, ·)).lookup k
      = (ms.lookup k).bind (knownMember members k) := by
  induction ms with
  | nil => rfl
  | cons m ms ih =>
    obtain ⟨l, v⟩ := m
    rw [List.filterMap_cons, lookup_entry]
    by_cases same : k = l
    · subst same
      rw [if_pos rfl, Option.bind_some]
      cases given : members.lookup k with
      | none =>
        have unknown (j : Json) : knownMember members k j = none := by
          rw [knownMember_eq, given, Option.map_none]
        rw [unknown v, Option.map_none, ih]
        cases ms.lookup k with
        | none => rfl
        | some w => exact unknown w
      | some s =>
        rw [knownMember_eq, given]
        exact List.lookup_cons_self
    · rw [if_neg same, ← ih]
      cases knownMember members l v with
      | none => rfl
      | some w => rw [Option.map_some, lookup_entry, if_neg same]

/-- A member of what is known is what is known of the member. -/
theorem get?_known (members : List (String × Shape)) (j : Json) (k : String) :
    ((object members).known j).get? k = (j.get? k).bind (knownMember members k) := by
  cases j with
  | obj ms => rw [known, get?, get?, ← List.filterMap_reverse, lookup_known]
  | _ => rfl

/-- A member stays as it is if nothing of it is unknown. -/
theorem get?_known_of_same {members : List (String × Shape)} {k : String}
    (same : ∀ v, knownMember members k v = some v) (j : Json) :
    ((object members).known j).get? k = j.get? k := by
  rw [get?_known, funext same, Option.bind_fun_some]

theorem textAt?_known_of_same {members : List (String × Shape)} {k : String}
    (same : ∀ v, knownMember members k v = some v) (j : Json) :
    ((object members).known j).textAt? k = j.textAt? k := by
  rw [textAt?, textAt?, get?_known_of_same same]

/-- A member with a shape is kept, with what the shape knows of it. -/
theorem get?_known_of_lookup {members : List (String × Shape)} {k : String} {s : Shape}
    (given : members.lookup k = some s) (j : Json) :
    ((object members).known j).get? k = (j.get? k).map s.known := by
  have known (v : Json) : knownMember members k v = some (s.known v) := by
    rw [knownMember_eq, given, Option.map_some]
  rw [get?_known, funext known]
  cases j.get? k <;> rfl

/-- A member that may be `null` counts as absent as before. -/
theorem present?_known {members inner : List (String × Shape)} {k : String}
    (given : members.lookup k = some (.optional (.object inner))) (j : Json) :
    ((object members).known j).present? k = (j.present? k).map (object inner).known := by
  rw [present?, present?, get?_known_of_lookup given]
  cases j.get? k with
  | none => rfl
  | some v => cases v <;> rfl

theorem itemsAt_known {members : List (String × Shape)} {item : Shape} {k : String}
    (given : members.lookup k = some (.optional (.list item))) (j : Json) :
    ((object members).known j).itemsAt k = (j.itemsAt k).map item.known := by
  rw [itemsAt, itemsAt, get?_known_of_lookup given]
  cases j.get? k with
  | none => rfl
  | some v => cases v <;> rfl

theorem known_null (s : Shape) : s.known .null = .null := by
  match s with
  | .optional s => exact known_null s
  | .free | .flag | .text | .textOf _ | .int _ _ | .intOrText _ _ | .word _ | .list _ | .dict _
  | .object _ | .record _ _ => rfl

/-! ## Whole documents -/

theorem fits_optional {s : Shape} {room : Nat} {j : Json} :
    (optional s).fits room j ↔ j = .null ∨ s.fits room j := by
  cases j <;> simp [fits]

mutual

/-- What is known of a document of a shape is a document of the shape. -/
theorem fits_known (s : Shape) {room : Nat} {j : Json} (h : s.fits room j) : s.fits room (s.known j) := by
  match s with
  | .list item =>
    match room, j, h with
    | room + 1, .arr xs, h =>
      simp only [known, fits, List.all_map, List.all_eq_true, Function.comp_apply] at h ⊢
      exact fun x mem => fits_known item (h x mem)
  | .dict value =>
    match room, j, h with
    | room + 1, .obj ms, h =>
      simp only [known, fits, List.all_map, List.all_eq_true, Function.comp_apply] at h ⊢
      exact fun m mem => fits_known value (h m mem)
  | .optional s =>
    obtain rfl | h := fits_optional.1 h
    · exact fits_optional.2 (.inl (known_null s))
    · exact fits_optional.2 (.inr (fits_known s h))
  | .object members =>
    match room, j, h with
    | room + 1, .obj ms, h =>
      simp only [known, fits, List.all_eq_true] at h ⊢
      intro n mem
      obtain ⟨m, member, given⟩ := List.mem_filterMap.1 mem
      obtain ⟨v, left, rfl⟩ := Option.map_eq_some_iff.1 given
      exact fits_knownMember members (h m member) left
  | .free | .flag | .text | .textOf _ | .int _ _ | .intOrText _ _ | .word _ | .record _ _ => exact h

theorem fits_knownMember (members : List (String × Shape)) {room : Nat} {k : String} {j v : Json}
    (h : fitsMember members room k j) (given : knownMember members k j = some v) :
    fitsMember members room k v := by
  match members with
  | [] => rfl
  | (name, s) :: others =>
    simp only [knownMember, fitsMember] at h given ⊢
    split at h
    · next same =>
      rw [if_pos same] at given ⊢
      exact Option.some.inj given ▸ fits_known s h
    · next other =>
      rw [if_neg other] at given ⊢
      exact fits_knownMember others h given

end

mutual

/-- The leaves of what is known of a document are leaves of the document. -/
theorem leaves_known (s : Shape) {p : Json → Prop} {j : Json} (h : j.Leaves p) : (s.known j).Leaves p := by
  match s with
  | .list item =>
    cases j with
    | arr xs =>
      refine leavesOfItems_iff.2 fun y mem => ?_
      obtain ⟨x, member, rfl⟩ := List.mem_map.1 mem
      exact leaves_known item (leavesOfItems_iff.1 h x member)
    | _ => exact h
  | .dict value =>
    cases j with
    | obj ms =>
      refine leavesOfMembers_iff.2 fun n mem => ?_
      obtain ⟨m, member, rfl⟩ := List.mem_map.1 mem
      exact leaves_known value (leavesOfMembers_iff.1 h m member)
    | _ => exact h
  | .optional s => exact leaves_known s h
  | .object members =>
    cases j with
    | obj ms =>
      refine leavesOfMembers_iff.2 fun n mem => ?_
      obtain ⟨m, member, given⟩ := List.mem_filterMap.1 mem
      obtain ⟨v, left, rfl⟩ := Option.map_eq_some_iff.1 given
      exact leaves_knownMember members (leavesOfMembers_iff.1 h m member) left
    | _ => exact h
  | .free | .flag | .text | .textOf _ | .int _ _ | .intOrText _ _ | .word _ | .record _ _ => exact h

theorem leaves_knownMember (members : List (String × Shape)) {p : Json → Prop} {k : String} {j v : Json}
    (h : j.Leaves p) (given : knownMember members k j = some v) : v.Leaves p := by
  match members with
  | [] => cases given
  | (name, s) :: others =>
    rw [knownMember] at given
    split at given
    · exact Option.some.inj given ▸ leaves_known s h
    · exact leaves_knownMember others h given

end

end NetAttach.Json.Shape
