-- SUMMARY: The list that a networks annotation means, written out as JSON, means the same list in every namespace.
import NetAttach.Proofs.Records
import NetAttach.Proofs.Requested
import NetAttach.Proofs.ShortForm

/-!
# Selections as text

Either form of the networks annotation is read as a list of selections that all have a
namespace. Written as JSON, this list no longer needs the namespace of a pod: it is read
as itself everywhere, so that the two forms can be told apart by their lists only.
-/

namespace NetAttach.Selection

open Json Text

/-- Write a list of selections. -/
def renderList (ss : List Selection) : String := (Json.arr (ss.map toJson)).render

/-- The arguments for the plugin are read again from how they are written. -/
def LastingArgs (s : Selection) : Prop :=
  ∀ args, s.cniArgs = some args → Rereads (dictOf keep) ofDict (maxDepth - 2) args

variable {raw default other : String} {item : List Char} {s : Selection} {ss selected : List Selection}

theorem LastingArgs.rereads (h : s.LastingArgs) : Rereads read toJson (maxDepth - 1) s :=
  show Rereads read toJson (maxDepth - 3 + 2) s from Selection.rereads h

/-! ## What is read -/

/-- The short form has no arguments for the plugin. -/
theorem cniArgs_of_ofItem (h : ofItem item = .ok s) : s.cniArgs = none := by
  obtain ⟨network, interface, asks⟩ := exists_asks item
  obtain ⟨-, -, -, -, rfl⟩ := (ofItem_eq_ok_iff asks rfl).1 h
  rfl

theorem lastingArgs_of_decode {j : Json} (decoded : decode (listOf read) j = some ss)
    (range : j.Leaves InRange) (hs : s ∈ ss) (exact : ∀ v ∈ s.foreign, v.Leaves Exact) :
    s.LastingArgs := by
  cases j with
  | arr xs =>
    obtain ⟨x, hx, hxs⟩ := exists_of_mapM decoded hs
    have hxs : read (maxDepth - 3 + 2) x = some s := hxs
    exact fun _ given => args_of_read hxs (leavesOfItems_iff.1 range x hx) exact given
  | _ => cases decoded

/-- Both forms are read first and completed then. -/
theorem complete_of_parseList (h : parseList raw default = .ok selected) :
    ∃ ss, complete default ss = .ok selected
      ∧ ∀ s ∈ ss, (∀ v ∈ s.foreign, v.Leaves Exact) → s.LastingArgs := by
  unfold parseList at h
  dsimp only at h
  split at h
  · exact ⟨[], h, List.forall_mem_nil _⟩
  split at h
  · split at h
    · next ss read =>
      obtain ⟨j, parsed, decoded⟩ := Option.bind_eq_some_iff.1 read
      exact ⟨ss, h, fun s hs => lastingArgs_of_decode decoded (inRange_parseChars parsed) hs⟩
    · cases h
  · obtain ⟨ss, read, h⟩ := bind_eq_ok_iff.1 h
    have bare : ∀ s ∈ ss, s.cniArgs = none := ((List.forall₂_and_left _ _).1
      ((mapM_eq_ok_iff.1 read).flip.imp fun s item h => ⟨cniArgs_of_ofItem h, h⟩)).1
    refine ⟨ss, h, fun s hs _ args given => ?_⟩
    rw [bare s hs] at given
    cases given

theorem foreign_inSpace : (s.inSpace default).foreign = s.foreign := by
  unfold inSpace
  split <;> rfl

theorem LastingArgs.inSpace (h : s.LastingArgs) : (s.inSpace default).LastingArgs := by
  unfold Selection.inSpace
  split <;> exact h

theorem space_inSpace (filled : default ≠ "") : (s.inSpace default).space ≠ "" := by
  unfold inSpace
  split
  · exact filled
  · next given => exact given

theorem inSpace_eq_self (filled : s.space ≠ "") : s.inSpace other = s := if_neg filled

/-! ## What is written -/

/-- A list that is written is read as itself if all its selections have a namespace and pass the
check. -/
theorem parseList_renderList (lasting : ∀ s ∈ ss, s.LastingArgs) (filled : ∀ s ∈ ss, s.space ≠ "")
    (tolerated : ∀ s ∈ ss, s.Tolerated) : parseList (renderList ss) other = .ok ss := by
  have list := Rereads.list fun s hs => (lasting s hs).rereads
  have text : (renderList ss).toList = renderChars (.arr (ss.map toJson)) := String.toList_ofList
  have marked : '[' ∈ (renderList ss).toList := by
    rw [text]
    cases ss <;> simp [renderChars]
  have decoded : (parseChars (trimChars (renderList ss).toList) >>= decode (listOf read)) = some ss := by
    rw [text, Attachment.trimChars_renderChars_arr, parseChars_render _ list.printable]
    exact list.read
  rw [parseList_marked ⟨_, marked, .inl rfl⟩ decoded, complete_eq_ok_iff]
  refine ⟨tolerated, (List.map_congr_left fun s hs => ?_).trans (List.map_id ss) |>.symm⟩
  exact inSpace_eq_self (filled s hs)

/-- What either form of the annotation means for a pod of some namespace is written as a list that
means the same for the pods of all namespaces, so that neither list has a selection that the other
has not. Integers of 64 bits are read back, so that among the arguments for the plugin only numbers
of other kinds have to be. -/
theorem written_selections_mean_the_same_everywhere (inside : default ≠ "")
    (means : parseList raw default = .ok selected)
    (exact : ∀ s ∈ selected, ∀ v ∈ s.foreign, v.Leaves Exact) (other : String) :
    ∃ again, parseList (renderList selected) other = .ok again ∧ again = selected
      ∧ notIn selected again = [] ∧ notIn again selected = [] := by
  obtain ⟨ss, completed, lasting⟩ := complete_of_parseList means
  obtain ⟨tolerated, rfl⟩ := complete_eq_ok_iff.1 completed
  rw [List.forall_mem_map] at exact
  refine ⟨_, parseList_renderList ?_ ?_ ?_, rfl, notIn_self _, notIn_self _⟩
  · exact List.forall_mem_map.2 fun s hs =>
      (lasting s hs (foreign_inSpace (s := s) ▸ exact s hs)).inSpace
  · exact List.forall_mem_map.2 fun s _ => space_inSpace inside
  · exact List.forall_mem_map.2 fun s hs => tolerated_inSpace.2 (tolerated s hs)

/-- A network with an interface that is empty, and with the largest integer and a zero with a sign for
the plugin. -/
private def zeroListing : String :=
  "[\x7b\x22name\x22:\x22net\x22,\x22interface\x22:\x22\x22,"
    ++ "\x22cni-args\x22:\x7b\x22b\x22:-0,\x22a\x22:18446744073709551615\x7d\x7d]"

private def zeroListed : Selection :=
  ⟨"net", "", some "", [], none, [], some (Dict.ofList [("a", .int 18446744073709551615),
    ("b", .double ⟨0x8000000000000000⟩)])⟩

/-- The namespace of the pod is written, and an empty interface and a zero with a sign are kept. -/
theorem written_selection_is_kept_in_another_namespace :
    "ns1" ≠ "" ∧ parseList zeroListing "ns1" = .ok [zeroListed.inSpace "ns1"]
      ∧ (∀ s ∈ [zeroListed.inSpace "ns1"], ∀ v ∈ s.foreign, v.Leaves Exact)
      ∧ ∃ again, parseList (renderList [zeroListed.inSpace "ns1"]) "ns2" = .ok again
        ∧ again = [zeroListed.inSpace "ns1"]
        ∧ notIn [zeroListed.inSpace "ns1"] again = [] ∧ notIn again [zeroListed.inSpace "ns1"] = [] := by
  have inside : "ns1" ≠ "" := by decide
  have decoded : (parseChars (trimChars zeroListing.toList) >>= decode (listOf read))
      = some [zeroListed] := by decide +kernel
  have valid : zeroListed.validate = .ok () := rfl
  have means : parseList zeroListing "ns1" = .ok [zeroListed.inSpace "ns1"] := by
    rw [parseList_marked ⟨'[', by decide +kernel, .inl rfl⟩ decoded, complete_eq_ok_iff]
    exact ⟨by simpa using validate_eq_ok_iff.1 valid, rfl⟩
  have exact : ∀ s ∈ [zeroListed.inSpace "ns1"], ∀ v ∈ s.foreign, v.Leaves Exact := by
    have foreign : zeroListed.foreign = [.int 18446744073709551615, .double ⟨0x8000000000000000⟩] := by
      decide +kernel
    simp [foreign_inSpace, foreign, Leaves, Exact, readsBack_negativeZero]
  exact ⟨inside, means, exact, written_selections_mean_the_same_everywhere inside means exact "ns2"⟩

end NetAttach.Selection
