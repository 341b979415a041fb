-- SUMMARY: The status annotation: reading and writing the list of attachments, and the two changes of it.
import NetAttach.Attachment.Basic
import NetAttach.Text.Blank
import NetAttach.Fault

/-!
# The status annotation

The annotation holds the attachments of a pod as a JSON array. The list changes in
two ways only: an attachment is recorded at the end, or one is dropped.
-/

namespace NetAttach.Attachment

-- ---------------------------------------------------------------------------
-- Text
-- ---------------------------------------------------------------------------

/-- Read the text of a status annotation. An annotation that is absent or blank is the empty list. -/
def parseList (raw : Option String) : Except AnnotationFault (List Attachment) :=
  match raw with
  | none => .ok []
  | some raw =>
    let text := Text.trimChars raw.toList
    if text = [] then .ok []
    else
      match Json.parseChars text >>= Json.decode (Json.listOf read) with
      | some as => .ok as
      | none => .error .statusUnreadable

/-- Write a list of attachments. -/
def renderList (as : List Attachment) : String := (Json.arr (as.map toJson)).render

/-- The attachments that a pod has. -/
def ofPod (pod : Pod) : Except AnnotationFault (List Attachment) :=
  parseList (pod.annotated? statusKey)

-- ---------------------------------------------------------------------------
-- Changes
-- ---------------------------------------------------------------------------

/-- Record an attachment at the end. It must have an interface, and one that is not recorded yet. -/
def record (recorded : List Attachment) (a : Attachment) :
    Except AnnotationFault (List Attachment) :=
  if a.interface = "" then .error (.interfaceUnknown a.network)
  else if recorded.any fun b => b.interface == a.interface then
    .error (.interfaceRecorded a.interface)
  else .ok (recorded ++ [a])

/-- Drop the first attachment with the network and the interface of the given one, if there is any. -/
def drop? (recorded : List Attachment) (a : Attachment) : Option (List Attachment) :=
  let same (b : Attachment) := b.network == a.network && b.interface == a.interface
  if recorded.any same then some (recorded.eraseP same) else none

end NetAttach.Attachment
