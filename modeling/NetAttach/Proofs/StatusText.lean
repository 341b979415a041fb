-- SUMMARY: The status that is written is read as the same list of attachments.
import NetAttach.Proofs.JsonReader
import NetAttach.Attachment.Annotation

/-!
# The status as text

A list of attachments that was read from a status, or that a plugin made, is written
as a text that is read as the same list, with all fields that others wrote.
-/

namespace NetAttach

open Json

/-! ## Name lookup -/

namespace Plugin.Dns

/-- The fields of name lookup as they are written. -/
def members (d : Dns) : List (Option (String × Json)) := [
  memberUnless d.nameservers.isEmpty "nameservers" (texts d.nameservers),
  member? "domain" (d.domain.map .str),
  memberUnless d.search.isEmpty "search" (texts d.search),
  memberUnless d.options.isEmpty "options" (texts d.options)]

theorem isEmpty_iff (d : Dns) : d.isEmpty = true ↔ d = empty := by
  obtain ⟨nameservers, domain, search, options⟩ := d
  simp [isEmpty, empty, and_assoc]

theorem named_members (d : Dns) :
    Named ["nameservers", "domain", "search", "options"] d.members :=
  .cons named_memberUnless (.cons named_member? (.cons named_memberUnless
    (.cons named_memberUnless .nil)))

theorem rereads (d : Dns) (room : Nat) : Rereads read toJson (room + 2) d := by
  refine ⟨?_, printable_record ?_⟩
  · obtain ⟨f, fields, hroom, present⟩ : ∃ f : Fields,
        recordFields ["nameservers", "domain", "search", "options"] (room + 2) d.toJson = some f
          ∧ f.room = room + 1 ∧ f.present = d.members.filterMap id :=
      ⟨_, recordFields_record (by decide) d.named_members (room + 1), rfl, rfl⟩
    have texts : ∀ ss, listOf text f.room (texts ss) = some ss := hroom ▸ listOf_texts room
    have empty : ∀ {ss : List String}, ss.isEmpty = true → [] = ss :=
      fun h => (List.isEmpty_iff.1 h).symm
    have lookup (k : String) := congrArg (List.lookup k) present
    simp only [members, lookup_memberUnless, lookup_member?, List.filterMap_nil, List.lookup_nil]
      at lookup
    have nameservers := default_of_lookup (f := f) (k := "nameservers") (a := [])
      (by simp [lookup]) (texts d.nameservers) empty
    have domain := optional_of_lookup (f := f) (k := "domain") (x := d.domain) (r := text) (w := .str)
      (by cases h : d.domain <;> simp [lookup, h])
      (fun _ _ => rfl) nofun
    have search := default_of_lookup (f := f) (k := "search") (a := [])
      (by simp [lookup]) (texts d.search) empty
    have options := default_of_lookup (f := f) (k := "options") (a := [])
      (by simp [lookup]) (texts d.options) empty
    rw [Dns.read, fields]
    simp [nameservers, domain, search, options]
  · simp only [List.forall_mem_cons]
    exact ⟨printable_memberUnless (printable_texts _), printable_option fun _ _ => printable_str _,
      printable_memberUnless (printable_texts _), printable_memberUnless (printable_texts _), nofun⟩

end Plugin.Dns

/-! ## Attachments -/

namespace Attachment

/-- The fields that others wrote are read as they are. -/
structure Lasting (a : Attachment) : Prop where
  unknown : ∀ m ∈ a.extra.entries, m.1 ∉ knownFields
  kept : ∀ m ∈ a.extra.entries, Kept (maxDepth - 2) m.2
  printable : ∀ m ∈ a.extra.entries, m.2.Printable

/-- The fields with a meaning of their own as they are written. -/
def members (a : Attachment) : List (Option (String × Json)) := [
  member "name" (.str a.network),
  memberUnless (a.interface == "") "interface" (.str a.interface),
  memberUnless a.ips.isEmpty "ips" (.texts a.ips),
  memberUnless (a.mac == "") "mac" (.str a.mac),
  memberUnless (!a.isDefault) "default" (.bool a.isDefault),
  memberUnless a.dns.isEmpty "dns" a.dns.toJson]

theorem named_members (a : Attachment) : Named knownFields a.members :=
  .cons (by rintro _ ⟨⟩; rfl) (.cons named_memberUnless (.cons named_memberUnless
    (.cons named_memberUnless (.cons named_memberUnless (.cons named_memberUnless .nil)))))

theorem toJson_eq (a : Attachment) :
    a.toJson = .obj (a.members.filterMap id ++ a.extra.entries) := by
  rw [toJson, Json.record, List.filterMap_append, List.filterMap_map]
  simp [members]

theorem rereads {a : Attachment} {room : Nat} (unknown : ∀ m ∈ a.extra.entries, m.1 ∉ knownFields)
    (kept : ∀ m ∈ a.extra.entries, Kept (room + 2) m.2)
    (printable : ∀ m ∈ a.extra.entries, m.2.Printable) : Rereads read toJson (room + 3) a := by
  constructor
  · obtain ⟨f, fields, hroom, present⟩ : ∃ f : Fields,
        objectFields knownFields (room + 2) (a.members.filterMap id ++ a.extra.entries) = some f
          ∧ f.room = room + 2 ∧ f.present = a.members.filterMap id :=
      ⟨_, objectFields_record (by decide) a.named_members unknown (room + 2), rfl, rfl⟩
    have others : (a.members.filterMap id ++ a.extra.entries).filter
        (fun m => !knownFields.contains m.1) = a.extra.entries := by
      have known : ∀ m ∈ a.members.filterMap id, m.1 ∈ knownFields := fun m hm =>
        a.named_members.sublist.subset (List.mem_map_of_mem hm)
      rw [List.filter_append, List.filter_eq_nil_iff.2 (by simpa using known),
        List.filter_eq_self.2 (by simpa using unknown), List.nil_append]
    have lookup (k : String) := congrArg (List.lookup k) present
    simp only [members, lookup_member, lookup_memberUnless, List.filterMap_nil, List.lookup_nil]
      at lookup
    have network : f.required "name" text = some a.network := by
      simp [Fields.required, lookup, text]
    have interface := default_of_lookup (f := f) (k := "interface") (r := text) (a := "")
      (v := .str a.interface) (x := a.interface) (e := a.interface == "")
      (by simp [lookup]) rfl
      fun h => (beq_iff_eq.1 h).symm
    have ips := default_of_lookup (f := f) (k := "ips") (r := listOf text) (a := [])
      (v := .texts a.ips) (x := a.ips) (e := a.ips.isEmpty)
      (by simp [lookup])
      (hroom ▸ listOf_texts _ _) (fun h => (List.isEmpty_iff.1 h).symm)
    have mac := default_of_lookup (f := f) (k := "mac") (r := text) (a := "")
      (v := .str a.mac) (x := a.mac) (e := a.mac == "")
      (by simp [lookup]) rfl
      fun h => (beq_iff_eq.1 h).symm
    have isDefault := default_of_lookup (f := f) (k := "default") (r := flag) (a := false)
      (v := .bool a.isDefault) (x := a.isDefault) (e := !a.isDefault)
      (by simp [lookup]) rfl
      fun h => by simpa using h.symm
    have dns := default_of_lookup (f := f) (k := "dns") (r := Plugin.Dns.read) (a := Plugin.Dns.empty)
      (v := a.dns.toJson) (x := a.dns) (e := a.dns.isEmpty)
      (by simp [lookup])
      (hroom ▸ (a.dns.rereads room).read) fun h => (a.dns.isEmpty_iff.1 h).symm
    rw [toJson_eq]
    show (objectFields knownFields (room + 2) _).bind _ = _
    rw [fields, Option.bind_some, others, keepMembers_eq_self kept]
    simp [network, interface, ips, mac, isDefault, dns, Dict.ofList_entries]
  · rw [toJson_eq]
    refine printable_obj ?_ printable
    simp only [members, List.forall_mem_cons]
    exact ⟨printable_member (printable_str _), printable_memberUnless (printable_str _),
      printable_memberUnless (printable_texts _), printable_memberUnless (printable_str _),
      printable_memberUnless ⟨nofun, nofun, nofun⟩,
      printable_memberUnless (a.dns.rereads 0).printable, nofun⟩

theorem Lasting.rereads {a : Attachment} (h : a.Lasting) : Rereads read toJson (maxDepth - 1) a :=
  show Rereads read toJson (maxDepth - 4 + 3) a from
    Attachment.rereads h.unknown h.kept h.printable

/-- What a plugin made has no fields of others. -/
theorem lasting_ofResult (network : Selection) (result : Plugin.Result) :
    (ofResult network result).Lasting := ⟨nofun, nofun, nofun⟩

/-- What is kept of an object that is read as an attachment. -/
theorem extra_eq_of_read {room : Nat} {j : Json} {a : Attachment} (h : read (room + 1) j = some a) :
    ∃ ms others, j = .obj ms
      ∧ keepMembers room (ms.filter fun m => !knownFields.contains m.1) = some others
      ∧ a.extra = Dict.ofList others := by
  cases j with
  | obj ms =>
    obtain ⟨f, -, h⟩ := Option.bind_eq_some_iff.1 h
    obtain ⟨others, hothers, h⟩ := Option.bind_eq_some_iff.1 h
    obtain ⟨_, -, h⟩ := Option.bind_eq_some_iff.1 h
    obtain ⟨_, -, h⟩ := Option.bind_eq_some_iff.1 h
    obtain ⟨_, -, h⟩ := Option.bind_eq_some_iff.1 h
    obtain ⟨_, -, h⟩ := Option.bind_eq_some_iff.1 h
    obtain ⟨_, -, h⟩ := Option.bind_eq_some_iff.1 h
    obtain ⟨_, -, h⟩ := Option.bind_eq_some_iff.1 h
    cases h
    exact ⟨ms, others, rfl, hothers, rfl⟩
  | _ => cases h

/-- The fields of others that were read have other names, and are kept as they are. -/
theorem extra_of_read {room : Nat} {j : Json} {a : Attachment} (h : read (room + 1) j = some a)
    (range : j.Leaves InRange) : ∀ m ∈ a.extra.entries,
      m.1 ∉ knownFields ∧ Kept room m.2 ∧ m.2.Leaves InRange := by
  obtain ⟨ms, others, rfl, hothers, extra⟩ := extra_eq_of_read h
  intro m hm
  have mem := Dict.mem_of_mem_ofList (extra ▸ hm)
  obtain ⟨kept, leaves⟩ := kept_of_keepMembers _ hothers m mem
  refine ⟨?_, kept, leaves _ (leavesOfMembers_iff.2 fun n hn => ?_)⟩
  · have hk : m.1 ∈ (ms.filter fun m => !knownFields.contains m.1).map (·.1) :=
      key_of_keepMembers hothers ▸ List.mem_map_of_mem mem
    obtain ⟨n, hn, hnm⟩ := List.mem_map.1 hk
    rw [← hnm]
    simpa using (List.mem_filter.1 hn).2
  · exact leavesOfMembers_iff.1 range n (List.mem_filter.1 hn).1

/-- Every field without a meaning of its own is kept: of a repeated one the last value, and with the
keys of its objects in order. -/
theorem get?_extra_of_read {room : Nat} {j : Json} {a : Attachment} (h : read (room + 1) j = some a)
    (k : String) :
    a.extra.get? k = if k ∈ knownFields then none else (j.get? k).bind (keep room) := by
  obtain ⟨ms, others, rfl, hothers, extra⟩ := extra_eq_of_read h
  have kept := List.forall₂_reverse_iff.2 (forall₂_of_keepMembers hothers)
  rw [extra, Dict.get?_ofList, lookup_of_forall₂ k kept, ← List.filter_reverse,
    lookup_filter (fun k => !knownFields.contains k)]
  by_cases known : k ∈ knownFields <;> simp [known, Json.get?]

/-- What was read lasts, as far as the doubles in the fields of others read back. -/
theorem lasting_of_read {j : Json} {a : Attachment} (h : read (maxDepth - 1) j = some a)
    (range : j.Leaves InRange) (exact : ∀ m ∈ a.extra.entries, m.2.Leaves Exact) : a.Lasting := by
  have extra := extra_of_read (show read (maxDepth - 2 + 1) j = some a from h) range
  refine ⟨fun m hm => (extra m hm).1, fun m hm => (extra m hm).2.1, fun m hm => ?_⟩
  obtain ⟨-, kept, range⟩ := extra m hm
  exact kept.printable range (exact m hm)

/-! ## Lists -/

theorem trimChars_renderChars_arr (xs : List Json) :
    Text.trimChars (renderChars (.arr xs)) = renderChars (.arr xs) := by
  have first : ∃ cs, renderChars (.arr xs) = '[' :: cs := by cases xs <;> exact ⟨_, rfl⟩
  have last : ∃ cs, renderChars (.arr xs) = cs ++ [']'] := by
    cases xs with
    | nil => exact ⟨['['], rfl⟩
    | cons x xs => exact ⟨_, rfl⟩
  obtain ⟨cs, first⟩ := first
  obtain ⟨ds, last⟩ := last
  have front : (renderChars (.arr xs)).dropWhile Text.isBlank = renderChars (.arr xs) := by
    rw [first]
    exact List.dropWhile_cons_of_neg (by decide)
  have back : (renderChars (.arr xs)).reverse.dropWhile Text.isBlank
      = (renderChars (.arr xs)).reverse := by
    rw [last, List.reverse_concat]
    exact List.dropWhile_cons_of_neg (by decide)
  rw [Text.trimChars, front, back, List.reverse_reverse]

/-- A status that is written is read as the same list. -/
theorem parseList_renderList {recorded : List Attachment} (h : ∀ a ∈ recorded, a.Lasting) :
    parseList (some (renderList recorded)) = .ok recorded := by
  have list := Rereads.list fun a ha => (h a ha).rereads
  have items : decode (listOf read) (.arr (recorded.map toJson)) = some recorded := list.read
  have text : renderChars (.arr (recorded.map toJson)) ≠ [] := by
    cases recorded <;> simp [renderChars]
  unfold parseList renderList render
  simp only [String.toList_ofList, trimChars_renderChars_arr, text, if_false,
    parseChars_render _ list.printable, Option.bind_eq_bind, Option.bind_some, items]

/-- What was read from a status lasts. -/
theorem lasting_of_parseList {raw : Option String} {recorded : List Attachment}
    (h : parseList raw = .ok recorded)
    (exact : ∀ a ∈ recorded, ∀ m ∈ a.extra.entries, m.2.Leaves Exact) :
    ∀ a ∈ recorded, a.Lasting := by
  unfold parseList at h
  split at h
  · cases h; exact nofun
  · dsimp only at h
    split at h
    · cases h; exact nofun
    · split at h
      · next as has =>
        cases h
        obtain ⟨j, parsed, has⟩ := Option.bind_eq_some_iff.1 has
        have range := inRange_parseChars parsed
        cases j with
        | arr xs =>
          intro a ha
          obtain ⟨x, hx, hxa⟩ := exists_of_mapM has ha
          exact lasting_of_read hxa (leavesOfItems_iff.1 range x hx) (exact a ha)
        | _ => cases has
      · cases h

end Attachment

end NetAttach
