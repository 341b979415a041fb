-- SUMMARY: Rewriting the status annotation of a pod while others write the pod too.
import NetAttach.Controller.Control
import NetAttach.Attachment.Annotation

/-!
# Status updates

A status is written by reading the pod, computing its new list of attachments and
writing the pod back. If the pod changed in between, the write is refused, and all is
done anew with the present pod, up to a limit.
-/

namespace NetAttach

/-- How the list of attachments of a pod is to change. There is nothing to write if the answer is
absent. -/
abbrev StatusChange := Pod → List Attachment → Attempt (Option (List Attachment))

/-- Rewrite the status of the pod of a key, which was read last as a pod. `left` is the number of times
that a refused write may be repeated, out of `limit`. -/
def rewriteStatus (limit : Nat) (key : ObjectKey) (change : StatusChange) :
    (left : Nat) → Pod → Attempt Pod
  | left, pod => do
    let recorded ← Attempt.ofExcept (Attachment.ofPod pod)
    match ← change pod recorded with
    | none => return pod
    | some updated =>
      let written := pod.annotate statusKey (Attachment.renderList updated)
      match ← Attempt.outcome (ask (.updatePod written)) with
      | .ok stored => return stored
      | .error (.conflict refused version) =>
        match left with
        | 0 => throw (.conflict refused version)
        | left + 1 =>
          ask (.notify (.statusOverwritten key (limit - left) limit))
          let present ← Attempt.reply (ask (.getPod key))
          rewriteStatus limit key change left present
      | .error (.notFound kind missing) => throw (.notFound kind missing)
      | .error cause => throw (.statusNotWritten key cause)

/-- Rewrite the status of a pod. It is the same pod that is read again, whatever is read. -/
def updateStatus (limit : Nat) (change : StatusChange) (left : Nat) (pod : Pod) : Attempt Pod :=
  rewriteStatus limit pod.key change left pod

end NetAttach
