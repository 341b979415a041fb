-- SUMMARY: Selections with different keys refer to different attachments.
import NetAttach.Proofs.Attaching
import Mathlib.Data.List.Nodup

/-!
# Slots

A selection refers to attachments by its network, which is compared as one text, and by the
interface that it asks for or, if it asks for none, by what no selection of the pod asks for.
So two selections that refer to one attachment have the same key, as long as the text of a
network can be cut into namespace and name in one way only.
-/

namespace NetAttach

namespace Selection

variable {s t : Selection}

/-- The namespace holds no slash, so that it ends with the first one of the network. -/
def Plain (s : Selection) : Prop := '/' ∉ s.space.toList

instance (s : Selection) : Decidable s.Plain := inferInstanceAs (Decidable (_ ∉ _))

theorem toList_network (s : Selection) :
    s.network.toList = s.space.toList ++ '/' :: s.name.toList := by
  simp [network]

theorem network_eq_iff (hs : s.Plain) (ht : t.Plain) :
    s.network = t.network ↔ s.space = t.space ∧ s.name = t.name := by
  constructor
  · intro same
    have cut := congrArg (Text.splitOnce '/' ·.toList) same
    simp only [toList_network, Text.splitOnce_append hs, Text.splitOnce_append ht, Option.some.injEq,
      Prod.mk.injEq, String.toList_inj] at cut
    exact cut
  · rintro ⟨space, name⟩
    rw [network, network, space, name]

end Selection

namespace Attachment

variable {recorded : List Attachment} {all : List Selection} {a b : Attachment} {s t : Selection}

/-- The two selections ask for the same interface, or both for none: one that asks for none leaves
the interfaces alone that others ask for. -/
theorem interface?_eq_of_matches (hs : s ∈ all) (ht : t ∈ all)
    (refers : a.matchesSelection s all = true) (refers' : a.matchesSelection t all = true) :
    s.interface? = t.interface? := by
  obtain ⟨-, ⟨i, asked, rfl⟩ | ⟨unasked, free⟩⟩ := matchesSelection_iff.1 refers
  · obtain ⟨-, ⟨j, asked', rfl⟩ | ⟨-, free⟩⟩ := matchesSelection_iff.1 refers'
    · rw [asked, asked']
    · exact absurd asked (free s hs)
  · obtain ⟨-, ⟨j, asked', rfl⟩ | ⟨unasked', -⟩⟩ := matchesSelection_iff.1 refers'
    · exact absurd asked' (free t ht)
    · rw [unasked, unasked']

theorem key_eq_of_matches (plain : ∀ s ∈ all, s.Plain) (hs : s ∈ all) (ht : t ∈ all)
    (refers : a.matchesSelection s all = true) (refers' : a.matchesSelection t all = true) :
    s.key = t.key := by
  have same : s.network = t.network :=
    (matchesSelection_iff.1 refers).1.symm.trans (matchesSelection_iff.1 refers').1
  obtain ⟨space, name⟩ := (Selection.network_eq_iff (plain s hs) (plain t ht)).1 same
  rw [Selection.key, Selection.key, space, name, interface?_eq_of_matches hs ht refers refers']

/-- What a selection refers to is told by its key. -/
theorem find?_congr_of_key (same : s.key = t.key) : find? recorded s all = find? recorded t all := by
  have slot : s.slot = t.slot := by
    rw [Selection.slot, Selection.slot, Selection.network_eq_of_key same]
    exact congrArg _ (congrArg SelectionKey.interface same)
  unfold find?
  exact congrArg (List.find? · recorded) (funext fun a => matchesSelection_congr slot)

/-- Selections of a pod that refer to one attachment have the same key. So if the interfaces of a
status are distinct, two selections that find attachments find the same interface exactly if they have
the same key, and those with different keys find different attachments. -/
theorem selections_share_no_attachment (plain : ∀ s ∈ all, s.Plain) :
    (∀ a : Attachment, ∀ s ∈ all, ∀ t ∈ all, a.matchesSelection s all = true →
      a.matchesSelection t all = true → s.key = t.key)
    ∧ ∀ recorded : List Attachment, (recorded.map (·.interface)).Nodup → ∀ s ∈ all, ∀ t ∈ all,
      ∀ a b, find? recorded s all = some a → find? recorded t all = some b →
        (a.interface = b.interface ↔ s.key = t.key) ∧ (s.key ≠ t.key → a ≠ b) := by
  have shared : ∀ a : Attachment, ∀ s ∈ all, ∀ t ∈ all, a.matchesSelection s all = true →
      a.matchesSelection t all = true → s.key = t.key :=
    fun a s hs t ht => key_eq_of_matches plain hs ht
  refine ⟨shared, fun recorded distinct s hs t ht a b found found' => ?_⟩
  have refers := matches_of_find? found
  have refers' := matches_of_find? found'
  refine ⟨⟨fun same => ?_, fun same => ?_⟩, ?_⟩
  · have : a = b := List.inj_on_of_nodup_map distinct (List.mem_of_find?_eq_some found)
      (List.mem_of_find?_eq_some found') same
    subst this
    exact shared a s hs t ht refers refers'
  · rw [find?_congr_of_key same, found'] at found
    rw [Option.some.inj found]
  · rintro different rfl
    exact different (shared a s hs t ht refers refers')

/-- Two selections of one network, one of which asks for an interface, and a third that asks for an
interface of another network. -/
theorem named_and_unnamed_are_told_apart :
    let named : Selection := ⟨"net", "ns1", some "eth1", [], none, [], none⟩
    let unnamed : Selection := ⟨"net", "ns1", none, [], none, [], none⟩
    let other : Selection := ⟨"other", "ns1", some "eth2", [], none, [], none⟩
    let on (network interface : String) : Attachment := ⟨network, interface, [], "", false, .empty, ∅⟩
    let recorded := [on "ns1/net" "eth2", on "ns1/net" "eth1", on "ns1/net" "net1"]
    ∃ a b, find? recorded unnamed [unnamed, named, other] = some a
      ∧ find? recorded named [unnamed, named, other] = some b ∧ a.interface ≠ b.interface := by
  intro named unnamed other on recorded
  refine ⟨on "ns1/net" "net1", on "ns1/net" "eth1", rfl, rfl, ?_⟩
  obtain ⟨-, finds⟩ := selections_share_no_attachment
    (show ∀ s ∈ [unnamed, named, other], s.Plain by decide)
  obtain ⟨tells, -⟩ := finds recorded (by decide) unnamed (by simp) named (by simp) _ _ rfl rfl
  rw [ne_eq, tells]
  decide

end Attachment

end NetAttach
