-- SUMMARY: A pod whose status is written has the attachments that were written, and selects what it selected before.
import NetAttach.Proofs.Attaching
import NetAttach.Proofs.StatusText
import NetAttach.Proofs.Store
import NetAttach.Selection.Annotation

/-!
# Writing the status of a pod

A status is written into the pod as it was read. If that pod is still the stored one, the
write is accepted, and the pod that is stored then has the attachments that were written,
if they last, and the selections of the pod before.
-/

namespace NetAttach

/-! ## Attachments that last -/

namespace Attachment

variable {recorded : List Attachment} {network : Selection}

theorem lasting_attached {result : Plugin.Result} (lasting : ∀ a ∈ recorded, a.Lasting) :
    ∀ a ∈ recorded ++ [ofResult network result], a.Lasting := by
  intro a ha
  obtain ha | ha := List.mem_append.1 ha
  · exact lasting a ha
  · rw [List.mem_singleton.1 ha]
    exact lasting_ofResult network result

theorem lasting_detachOne (all : List Selection) (lasting : ∀ a ∈ recorded, a.Lasting) :
    ∀ a ∈ detachOne all recorded network, a.Lasting := by
  rw [detachOne_eq]
  exact fun a ha => lasting a (List.mem_of_mem_eraseP ha)

/-- What is found for a selection can be dropped. -/
theorem drop?_of_find? {a : Attachment} {all : List Selection}
    (found : find? recorded network all = some a) :
    drop? recorded a = some (detachOne all recorded network) := by
  have held : a ∈ recorded := List.mem_of_find?_eq_some found
  have dropped : drop? recorded a
      = some (recorded.eraseP fun b => b.network == a.network && b.interface == a.interface) :=
    if_pos (List.any_eq_true.2 ⟨a, held, by simp⟩)
  rw [dropped]
  simp only [detachOne, found, dropped, Option.getD_some]

end Attachment

/-! ## Pods with a new status -/

/-- The pod that is stored when a pod is written with a new status. -/
def Pod.withStatus (pod : Pod) (updated : List Attachment) : Pod :=
  { pod.annotate statusKey (Attachment.renderList updated) with version := pod.version + 1 }

variable {pod : Pod} {updated : List Attachment}

@[simp] theorem Pod.key_withStatus : (pod.withStatus updated).key = pod.key := rfl

theorem Selection.ofPod_withStatus : ofPod (pod.withStatus updated) = ofPod pod := by
  have networks : (pod.withStatus updated).annotated? networksKey = pod.annotated? networksKey :=
    Dict.get?_insert_of_ne _ _ (by decide)
  unfold ofPod
  rw [networks]
  rfl

theorem Attachment.ofPod_withStatus (lasting : ∀ a ∈ updated, a.Lasting) :
    ofPod (pod.withStatus updated) = .ok updated := by
  have status : (pod.withStatus updated).annotated? statusKey = some (renderList updated) :=
    Dict.get?_insert_self _ _ _
  rw [ofPod, status, parseList_renderList lasting]

/-- A write of the stored pod is accepted. -/
theorem PodStore.update_withStatus {s : PodStore} (stored : s.get pod.key = .ok pod)
    (updated : List Attachment) :
    s.update (pod.annotate statusKey (Attachment.renderList updated))
        = (.ok (pod.withStatus updated), s.replace pod (pod.withStatus updated))
      ∧ (s.replace pod (pod.withStatus updated)).get pod.key = .ok (pod.withStatus updated) := by
  have present : s.pods.get? (pod.annotate statusKey (Attachment.renderList updated)).key = some pod :=
    get_eq_ok.1 stored
  refine ⟨?_, get_eq_ok.2 (Keyed.get?_put_self _ _ _)⟩
  unfold update
  rw [present]
  exact if_pos rfl

end NetAttach
