-- SUMMARY: In a store of pods the version of a pod tells what it holds.
import NetAttach.Store.Memory

/-!
# Versions of stored pods

Every accepted write of a pod gives it the next version. A pod that a store has issued
is thus either the stored one or older than it, whoever writes in the meantime, and a
write that brings the stored version brings the stored pod.
-/

namespace NetAttach.PodStore

variable {s s' : PodStore} {pod new : Pod}

/-- Every pod is stored under its own name. -/
def Named (s : PodStore) : Prop := ∀ {key pod}, s.pods.get? key = some pod → pod.key = key

/-- A pod that was stored at some time: it is older than the one stored now, or the same. -/
def Issued (s : PodStore) (pod : Pod) : Prop :=
  ∃ stored, s.pods.get? pod.key = some stored
    ∧ (pod.version < stored.version ∨ pod = stored)

/-- A pod is stored, in a version that comes after the stored one. -/
inductive Stores (s : PodStore) (pod : Pod) (s' : PodStore) : Prop where
  | first (absent : s.pods.get? pod.key = none) (put : s'.pods = s.pods.put pod.key pod)
  | next {old : Pod} (stored : s.pods.get? pod.key = some old)
    (version : pod.version = old.version + 1) (put : s'.pods = s.pods.put pod.key pod)

theorem named_empty : empty.Named := by
  intro key pod h
  cases h

theorem get_eq_ok {key : ObjectKey} : s.get key = .ok pod ↔ s.pods.get? key = some pod := by
  unfold get
  cases s.pods.get? key <;> simp

theorem get_put {k : ObjectKey} (put : s'.pods = s.pods.put k new) (key : ObjectKey) :
    s'.get key = if key = k then .ok new else s.get key := by
  unfold get
  rw [put, Keyed.get?_put]
  by_cases hk : key = k <;> simp [hk]

/-! ## Writes -/

theorem Stores.put (h : s.Stores pod s') : s'.pods = s.pods.put pod.key pod := by
  cases h with
  | first _ put => exact put
  | next _ _ put => exact put

theorem stores_apply (s : PodStore) (pod : Pod) : s.Stores (s.apply pod).1 (s.apply pod).2 := by
  unfold apply
  split
  · next old stored => exact .next stored rfl rfl
  · next absent => exact .first absent rfl

/-- A write is accepted if it brings the version that is stored. -/
theorem update_eq_ok (h : s.update pod = (.ok new, s')) :
    ∃ old, s.pods.get? pod.key = some old ∧ old.version = pod.version
      ∧ new = { pod with version := pod.version + 1 } ∧ s'.pods = s.pods.put pod.key new := by
  unfold update at h
  split at h
  · cases h
  · next old stored =>
    split at h
    · next version => cases h; exact ⟨old, stored, version, rfl, rfl⟩
    · cases h

theorem get_of_update (h : s.update pod = (.ok new, s')) : s'.get new.key = .ok new := by
  obtain ⟨_, _, _, rfl, put⟩ := update_eq_ok h
  exact (get_put put _).trans (if_pos rfl)

/-- An accepted write changes the stored pod. -/
theorem get_ne_of_update (h : s.update pod = (.ok new, s')) : s'.get new.key ≠ s.get new.key := by
  rw [get_of_update h]
  obtain ⟨old, stored, version, rfl, -⟩ := update_eq_ok h
  intro same
  obtain rfl := Except.ok.inj (same.trans (get_eq_ok.2 stored))
  exact absurd version (Nat.succ_ne_self _)

/-- A write that is refused leaves the store as it is. -/
theorem update_eq_error {cause : Fault} (h : s.update pod = (.error cause, s')) : s' = s := by
  unfold update at h
  split at h
  · cases h; rfl
  · split at h
    · cases h
    · cases h; rfl

theorem stores_update (h : s.update pod = (.ok new, s')) : s.Stores new s' := by
  obtain ⟨old, stored, version, rfl, put⟩ := update_eq_ok h
  exact .next stored (congrArg (· + 1) version.symm) put

/-- A store after any write from outside. -/
theorem stores_or_same (s : PodStore) (pod : Pod) :
    (s.update pod).2 = s ∨ ∃ new, s.Stores new (s.update pod).2 := by
  cases h : s.update pod with
  | mk r s' =>
    cases r with
    | error cause => exact .inl (update_eq_error h)
    | ok new => exact .inr ⟨new, stores_update h⟩

theorem Stores.named (h : s.Stores new s') (named : s.Named) : s'.Named := by
  intro key pod hp
  rw [h.put, Keyed.get?_put] at hp
  split at hp
  · next hk => cases hp; exact hk.symm
  · exact named hp

/-- What was stored once stays behind what is stored. -/
theorem Stores.issued (h : s.Stores new s') (issued : s.Issued pod) : s'.Issued pod := by
  obtain ⟨stored, hs, old⟩ := issued
  unfold Issued
  rw [h.put]
  by_cases hk : pod.key = new.key
  · refine ⟨new, by simp [hk], .inl ?_⟩
    cases h with
    | first absent put =>
      rw [← hk, hs] at absent
      cases absent
    | next stored' version put =>
      rw [← hk, hs] at stored'
      cases stored'
      rw [version]
      cases old with
      | inl lt => omega
      | inr eq => rw [eq]; omega
  · refine ⟨stored, ?_, old⟩
    rw [Keyed.get?_put, if_neg hk]
    exact hs

theorem Stores.issued_self (h : s.Stores new s') : s'.Issued new :=
  ⟨new, by rw [h.put, Keyed.get?_put_self], .inr rfl⟩

theorem Named.issued (named : s.Named) {key : ObjectKey} (h : s.pods.get? key = some pod) :
    s.Issued pod := ⟨pod, by rw [named h]; exact h, .inr rfl⟩

/-- A pod that was stored once and is of the stored version is the stored pod. -/
theorem Issued.eq_stored (issued : s.Issued pod) {stored : Pod}
    (h : s.pods.get? pod.key = some stored) (version : stored.version = pod.version) :
    stored = pod := by
  obtain ⟨stored', h', old⟩ := issued
  obtain rfl := Option.some.inj (h.symm.trans h')
  cases old with
  | inl lt => omega
  | inr eq => exact eq.symm

end NetAttach.PodStore
