-- SUMMARY: Every record that can be read from a text is written as a text that is read as the same record.
import NetAttach.Proofs.StatusText
import NetAttach.Pod

/-!
# Records as text

A record may be read from an object or from an array, with its fields in any order, some of
them absent, and with other fields that mean nothing. It is written in one way only. Reading
that text gives the record again, because a field that is left out has the value that stands
for it, and because what others wrote is kept.
-/

namespace NetAttach

open Json

/-! ## What is read -/

namespace Json

variable {α : Type} {r : Reader α} {room : Nat}

theorem mem_of_lookup {k : String} {j : Json} {ms : List (String × Json)}
    (h : ms.lookup k = some j) : (k, j) ∈ ms := by
  induction ms with
  | nil => cases h
  | cons m ms ih =>
    rw [List.lookup_cons] at h
    split at h
    · next here =>
      cases h
      rw [eq_of_beq here]
      exact List.mem_cons_self ..
    · exact List.mem_cons_of_mem _ (ih h)

/-- The fields of a record are parts of its document. -/
theorem leaves_of_recordFields {names : List String} {j : Json} {f : Fields} {p : Json → Prop}
    (h : recordFields names (room + 1) j = some f) (leaves : j.Leaves p) :
    f.room = room ∧ ∀ m ∈ f.present, m.2.Leaves p := by
  cases j with
  | obj ms =>
    simp only [recordFields, objectFields] at h
    split at h
    · cases h
      exact ⟨rfl, fun m mem => leavesOfMembers_iff.1 leaves m (List.mem_filter.1 mem).1⟩
    · cases h
  | arr xs =>
    simp only [recordFields] at h
    split at h
    · cases h
      exact ⟨rfl, fun m mem => leavesOfItems_iff.1 leaves m.2 (List.of_mem_zip mem).2⟩
    · cases h
  | _ => cases h

/-- A field that has a default is read as the default or from a field that is present. -/
theorem default_eq_some {f : Fields} {k : String} {absent a : α}
    (h : f.default k r absent = some a) :
    a = absent ∨ ∃ j, (k, j) ∈ f.present ∧ r f.room j = some a := by
  unfold Fields.default at h
  split at h
  · next j lookup => exact .inr ⟨j, mem_of_lookup lookup, h⟩
  · cases h
    exact .inl rfl

theorem optional_eq_some {f : Fields} {k : String} {a : α} (h : f.optional k r = some (some a)) :
    ∃ j, (k, j) ∈ f.present ∧ r f.room j = some a := by
  obtain ⟨⟨⟩⟩ | ⟨j, mem, read⟩ := default_eq_some h
  refine ⟨j, mem, ?_⟩
  unfold Json.optional at read
  split at read
  · cases read
  · simpa using read

theorem le_of_word {j : Json} {n : Nat} (h : word room j = some n) : n ≤ maxWord := by
  unfold word natUpTo at h
  split at h
  · split at h
    · next fits =>
      cases h
      exact fits
    · cases h
  · cases h

/-- What holds of all that an item is read as holds of the items of an array. -/
theorem forall_of_listOf {j : Json} {as : List α} {p : α → Prop} (h : listOf r room j = some as)
    (item : ∀ room j a, r room j = some a → p a) : ∀ a ∈ as, p a := by
  unfold listOf at h
  split at h
  · intro a mem
    obtain ⟨x, -, read⟩ := exists_of_mapM h mem
    exact item _ x a read
  · cases h

/-- Kept values of a dictionary are kept as they are, and are parts of its document. -/
theorem kept_of_dictOf {j : Json} {d : Dict Json} {p : Json → Prop}
    (h : dictOf keep (room + 1) j = some d) (leaves : j.Leaves p) :
    ∀ e ∈ d.entries, Kept room e.2 ∧ e.2.Leaves p := by
  cases j with
  | obj ms =>
    obtain ⟨es, hes, rfl⟩ := Option.map_eq_some_iff.1 h
    intro e mem
    obtain ⟨m, hm, read⟩ := exists_of_mapM hes (Dict.mem_of_mem_ofList mem)
    obtain ⟨v, hv, rfl⟩ := Option.map_eq_some_iff.1 read
    obtain ⟨kept, all⟩ := kept_of_keep m.2 hv
    exact ⟨kept, all p (leavesOfMembers_iff.1 leaves m hm)⟩
  | _ => cases h

end Json

/-! ## Names, containers and definitions -/

theorem ObjectKey.rereads (k : ObjectKey) (room : Nat) : Rereads read toJson (room + 1) k := by
  refine ⟨rfl, printable_record ?_⟩
  simp only [List.forall_mem_cons]
  exact ⟨printable_member (printable_str _), printable_member (printable_str _), nofun⟩

theorem Container.rereads (c : Container) (room : Nat) : Rereads read toJson (room + 1) c := by
  refine ⟨rfl, printable_record ?_⟩
  simp only [List.forall_mem_cons]
  exact ⟨printable_member (printable_str _), printable_member (printable_str _), nofun⟩

theorem Definition.rereads (d : Definition) (room : Nat) : Rereads read toJson (room + 1) d := by
  refine ⟨rfl, printable_record ?_⟩
  simp only [List.forall_mem_cons]
  exact ⟨printable_member (printable_str _), printable_member (printable_str _),
    printable_member (printable_str _), nofun⟩

/-! ## Pods -/

namespace Pod

theorem rereads {p : Pod} (version : p.version ≤ maxWord) (room : Nat) :
    Rereads read toJson (room + 3) p := by
  have version : Rereads word (fun n => .int n) (room + 2) p.version := rereads_word version
  have annotations : Rereads (dictOf text) _ (room + 2) p.annotations :=
    Rereads.dict fun e _ => rereads_text e.2
  have containers := Rereads.list fun c (_ : c ∈ p.containers) => c.rereads room
  refine ⟨?_, printable_record ?_⟩
  · have fields : read (room + 3) p.toJson = do
        let version ← word (room + 2) (.int p.version)
        let annotations ← dictOf text (room + 2) (.obj (p.annotations.entries.map fun e => (e.1, .str e.2)))
        let containers ← listOf Container.read (room + 2) (.arr (p.containers.map Container.toJson))
        return ⟨p.space, p.name, p.uid, version, annotations, containers⟩ := rfl
    rw [fields, version.read, annotations.read, containers.read]
    rfl
  · simp only [List.forall_mem_cons]
    exact ⟨printable_member (printable_str _), printable_member (printable_str _),
      printable_member (printable_str _), printable_member version.printable,
      printable_member annotations.printable, printable_member containers.printable, nofun⟩

theorem version_of_read {room : Nat} {j : Json} {p : Pod} (h : read room j = some p) :
    p.version ≤ maxWord := by
  obtain ⟨f, -, h⟩ := Option.bind_eq_some_iff.1 h
  obtain ⟨_, -, h⟩ := Option.bind_eq_some_iff.1 h
  obtain ⟨_, -, h⟩ := Option.bind_eq_some_iff.1 h
  obtain ⟨_, -, h⟩ := Option.bind_eq_some_iff.1 h
  obtain ⟨version, read, h⟩ := Option.bind_eq_some_iff.1 h
  obtain ⟨_, -, h⟩ := Option.bind_eq_some_iff.1 h
  obtain ⟨_, -, h⟩ := Option.bind_eq_some_iff.1 h
  cases h
  obtain rfl | ⟨j, -, read⟩ := default_eq_some read
  · exact Nat.zero_le _
  · exact le_of_word read

end Pod

/-! ## Results of a plugin -/

namespace Plugin

theorem Interface.rereads (i : Interface) (room : Nat) : Rereads read toJson (room + 1) i := by
  refine ⟨rfl, printable_record ?_⟩
  simp only [List.forall_mem_cons]
  exact ⟨printable_member (printable_str _), printable_member (printable_str _),
    printable_member (printable_str _), nofun⟩

theorem Route.rereads (r : Route) (room : Nat) : Rereads read toJson (room + 1) r := by
  obtain ⟨dst, gw⟩ := r
  refine ⟨?_, printable_record ?_⟩
  · cases gw <;> rfl
  · simp only [List.forall_mem_cons]
    exact ⟨printable_member (printable_str _), printable_option fun _ _ => printable_str _, nofun⟩

namespace Address

/-- The position of the interface fits 64 bits. -/
def Fits (a : Address) : Prop := ∀ n, a.interface = some n → n ≤ maxWord

theorem rereads {a : Address} (fits : a.Fits) (room : Nat) : Rereads read toJson (room + 1) a := by
  obtain ⟨address, gateway, interface⟩ := a
  have position (n : Nat) (some : interface = some n) : Rereads word (fun n => .int n) room n :=
    rereads_word (fits n some)
  refine ⟨?_, printable_record ?_⟩
  · cases interface with
    | none => cases gateway <;> rfl
    | some n =>
      have fields : read (room + 1) (toJson ⟨address, gateway, some n⟩) = do
          let interface ← (word room (.int n)).map some
          return ⟨address, gateway, interface⟩ := by
        cases gateway <;> rfl
      rw [fields, (position n rfl).read]
      rfl
  · simp only [List.forall_mem_cons]
    refine ⟨printable_member (printable_str _), printable_option fun _ _ => printable_str _,
      printable_member? fun j written => ?_, nofun⟩
    cases interface with
    | none => cases written
    | some n =>
      cases written
      exact (position n rfl).printable

theorem fits_of_read {room : Nat} {j : Json} {a : Address} (h : read room j = some a) : a.Fits := by
  obtain ⟨f, -, h⟩ := Option.bind_eq_some_iff.1 h
  obtain ⟨_, -, h⟩ := Option.bind_eq_some_iff.1 h
  obtain ⟨_, -, h⟩ := Option.bind_eq_some_iff.1 h
  obtain ⟨interface, position, h⟩ := Option.bind_eq_some_iff.1 h
  cases h
  rintro n rfl
  obtain ⟨_, -, read⟩ := optional_eq_some position
  exact le_of_word read

end Address

namespace Result

theorem rereads {r : Result} (fits : ∀ a ∈ r.ips, a.Fits) (room : Nat) :
    Rereads read toJson (room + 3) r := by
  have interfaces := Rereads.list fun i (_ : i ∈ r.interfaces) => i.rereads room
  have ips := Rereads.list fun a (mem : a ∈ r.ips) => Address.rereads (fits a mem) room
  have routes := Rereads.list fun x (_ : x ∈ r.routes) => x.rereads room
  have dns := r.dns.rereads room
  refine ⟨?_, printable_record ?_⟩
  · have fields : read (room + 3) r.toJson = do
        let interfaces ← listOf Interface.read (room + 2) (.arr (r.interfaces.map Interface.toJson))
        let ips ← listOf Address.read (room + 2) (.arr (r.ips.map Address.toJson))
        let routes ← listOf Route.read (room + 2) (.arr (r.routes.map Route.toJson))
        let dns ← Dns.read (room + 2) r.dns.toJson
        return ⟨r.cniVersion, interfaces, ips, routes, dns⟩ := rfl
    rw [fields, interfaces.read, ips.read, routes.read, dns.read]
    rfl
  · simp only [List.forall_mem_cons]
    exact ⟨printable_member (printable_str _), printable_member interfaces.printable,
      printable_member ips.printable, printable_member routes.printable,
      printable_member dns.printable, nofun⟩

theorem fits_of_read {room : Nat} {j : Json} {r : Result} (h : read room j = some r) :
    ∀ a ∈ r.ips, a.Fits := by
  obtain ⟨f, -, h⟩ := Option.bind_eq_some_iff.1 h
  obtain ⟨_, -, h⟩ := Option.bind_eq_some_iff.1 h
  obtain ⟨_, -, h⟩ := Option.bind_eq_some_iff.1 h
  obtain ⟨ips, read, h⟩ := Option.bind_eq_some_iff.1 h
  obtain ⟨_, -, h⟩ := Option.bind_eq_some_iff.1 h
  obtain ⟨_, -, h⟩ := Option.bind_eq_some_iff.1 h
  cases h
  obtain rfl | ⟨j, -, read⟩ := default_eq_some read
  · exact nofun
  · exact forall_of_listOf read fun _ _ _ => Address.fits_of_read

end Result

namespace Response

theorem rereads {r : Response} (fits : ∀ result, r.result = some result → ∀ a ∈ result.ips, a.Fits)
    (room : Nat) : Rereads read toJson (room + 4) r := by
  obtain ⟨result⟩ := r
  cases result with
  | none => exact ⟨rfl, ⟨nofun, nofun, nofun⟩, trivial⟩
  | some given =>
    have result := Result.rereads (fits given rfl) room
    have fields : read (room + 4) (toJson ⟨some given⟩) = do
        let result ← (Result.read (room + 3) given.toJson).map some
        return ⟨result⟩ := rfl
    refine ⟨?_, result.printable, trivial⟩
    rw [fields, result.read]
    rfl

theorem fits_of_read {room : Nat} {j : Json} {r : Response} (h : read room j = some r) :
    ∀ result, r.result = some result → ∀ a ∈ result.ips, a.Fits := by
  obtain ⟨f, -, h⟩ := Option.bind_eq_some_iff.1 h
  obtain ⟨result, read, h⟩ := Option.bind_eq_some_iff.1 h
  cases h
  rintro result rfl
  obtain ⟨_, -, read⟩ := optional_eq_some read
  exact Result.fits_of_read read

end Response

end Plugin

/-! ## Selections -/

namespace Selection

/-- The names of the fields. -/
def fieldNames : List String :=
  ["name", "namespace", "interface", "ips", "mac", "default-route", "cni-args"]

/-- The fields as they are written. -/
def members (s : Selection) : List (Option (String × Json)) := [
  member "name" (.str s.name),
  memberUnless (s.space == "") "namespace" (.str s.space),
  member? "interface" (s.interfaceRequest.map .str),
  memberUnless s.ips.isEmpty "ips" (.texts s.ips),
  member? "mac" (s.mac.map .str),
  memberUnless s.defaultRoute.isEmpty "default-route" (.texts s.defaultRoute),
  member? "cni-args" (s.cniArgs.map .ofDict)]

theorem named_members (s : Selection) : Named fieldNames s.members :=
  .cons (by rintro _ ⟨⟩; rfl) (.cons named_memberUnless (.cons named_member?
    (.cons named_memberUnless (.cons named_member? (.cons named_memberUnless
      (.cons named_member? .nil))))))

theorem rereads {s : Selection} {room : Nat}
    (args : ∀ d, s.cniArgs = some d → Rereads (dictOf keep) ofDict (room + 1) d) :
    Rereads read toJson (room + 2) s := by
  refine ⟨?_, printable_record ?_⟩
  · obtain ⟨f, fields, hroom, present⟩ : ∃ f : Fields,
        recordFields fieldNames (room + 2) s.toJson = some f ∧ f.room = room + 1
          ∧ f.present = s.members.filterMap id :=
      ⟨_, recordFields_record (by decide) s.named_members (room + 1), rfl, rfl⟩
    have lookup (k : String) := congrArg (List.lookup k) present
    simp only [members, lookup_member, lookup_memberUnless, lookup_member?, List.filterMap_nil,
      List.lookup_nil] at lookup
    have texts : ∀ ss, listOf text f.room (texts ss) = some ss := hroom ▸ listOf_texts room
    have empty : ∀ {ss : List String}, ss.isEmpty = true → [] = ss :=
      fun h => (List.isEmpty_iff.1 h).symm
    have name : f.required "name" text = some s.name := by simp [Fields.required, lookup, text]
    have space := default_of_lookup (f := f) (k := "namespace") (r := text) (a := "")
      (v := .str s.space) (x := s.space) (e := s.space == "") (by simp [lookup]) rfl
      fun h => (beq_iff_eq.1 h).symm
    have interface := optional_of_lookup (f := f) (k := "interface") (x := s.interfaceRequest)
      (r := text) (w := .str) (by cases h : s.interfaceRequest <;> simp [lookup, h])
      (fun _ _ => rfl) (by simp)
    have ips := default_of_lookup (f := f) (k := "ips") (a := [])
      (by simp [lookup]) (texts s.ips) empty
    have mac := optional_of_lookup (f := f) (k := "mac") (x := s.mac) (r := text) (w := .str)
      (by cases h : s.mac <;> simp [lookup, h]) (fun _ _ => rfl) (by simp)
    have route := default_of_lookup (f := f) (k := "default-route") (a := [])
      (by simp [lookup]) (texts s.defaultRoute) empty
    have args := optional_of_lookup (f := f) (k := "cni-args") (x := s.cniArgs) (r := dictOf keep)
      (w := ofDict) (by cases h : s.cniArgs <;> simp [lookup, h])
      (fun d some => hroom ▸ (args d some).read) (by simp [ofDict])
    unfold fieldNames at fields
    rw [read, fields]
    simp [name, space, interface, ips, mac, route, args]
  · simp only [List.forall_mem_cons]
    exact ⟨printable_member (printable_str _), printable_memberUnless (printable_str _),
      printable_option fun _ _ => printable_str _, printable_memberUnless (printable_texts _),
      printable_option fun _ _ => printable_str _, printable_memberUnless (printable_texts _),
      printable_option fun d some => (args d some).printable, List.forall_mem_nil _⟩

/-- The values that are handed on to the plugin as they are. -/
def foreign (s : Selection) : List Json := (s.cniArgs.elim [] Dict.entries).map (·.2)

theorem args_of_read {room : Nat} {j : Json} {s : Selection} (h : read (room + 2) j = some s)
    (range : j.Leaves InRange) (exact : ∀ v ∈ s.foreign, v.Leaves Exact) {d : Dict Json}
    (hd : s.cniArgs = some d) : Rereads (dictOf keep) ofDict (room + 1) d := by
  obtain ⟨f, fields, h⟩ := Option.bind_eq_some_iff.1 h
  obtain ⟨_, -, h⟩ := Option.bind_eq_some_iff.1 h
  obtain ⟨_, -, h⟩ := Option.bind_eq_some_iff.1 h
  obtain ⟨_, -, h⟩ := Option.bind_eq_some_iff.1 h
  obtain ⟨_, -, h⟩ := Option.bind_eq_some_iff.1 h
  obtain ⟨_, -, h⟩ := Option.bind_eq_some_iff.1 h
  obtain ⟨_, -, h⟩ := Option.bind_eq_some_iff.1 h
  obtain ⟨args, given, h⟩ := Option.bind_eq_some_iff.1 h
  cases h
  cases hd
  obtain ⟨hroom, leaves⟩ := leaves_of_recordFields fields range
  obtain ⟨v, mem, read⟩ := optional_eq_some given
  rw [hroom] at read
  have kept := kept_of_dictOf read (leaves _ mem)
  have values : Rereads (dictOf keep) _ (room + 1) d := Rereads.dict fun e he =>
    (kept e he).1.rereads ((kept e he).1.printable (kept e he).2
      (exact e.2 (List.mem_map_of_mem he)))
  show Rereads (dictOf keep) (fun d => .obj d.entries) (room + 1) d
  simpa using values

end Selection

/-! ## All records -/

/-- The values of the fields that others wrote. -/
def Attachment.foreign (a : Attachment) : List Json := a.extra.entries.map (·.2)

/-- Whatever is read from any text is read again from how it is written. Integers among the foreign
values read back, and so does the zero with a sign, but not every other double. -/
def Json.Lossless {α : Type} (r : Reader α) (w : α → Json) (foreign : α → List Json) : Prop :=
  ∀ text a, decodeText r text = some a → (∀ v ∈ foreign a, v.Leaves Exact) →
    decodeText r (w a).render = some a

theorem readsBack_negativeZero : Double.ReadsBack ⟨0x8000000000000000⟩ :=
  ⟨⟨true, ['0'], some ['0'], none⟩, by decide +kernel, by decide +kernel⟩

theorem Json.lossless_of_rereads {α : Type} {r : Reader α} {w : α → Json} {foreign : α → List Json}
    (h : ∀ j a, r maxDepth j = some a → j.Leaves InRange → (∀ v ∈ foreign a, v.Leaves Exact) →
      Rereads r w maxDepth a) : Lossless r w foreign := by
  intro text a decoded exact
  obtain ⟨j, parsed, read⟩ := Option.bind_eq_some_iff.1 decoded
  have again := h j a read (inRange_parseChars parsed) exact
  have parsed' : parse (w a).render = some (w a) := by
    rw [parse, render, String.toList_ofList, parseChars_render _ again.printable]
  rw [decodeText, parsed']
  exact again.read

/-- Every form of a record is lossless: its fields may be given in any order or as an array, some may
be absent, and others may be unknown or repeated. So is the list of attachments of a pod as its
annotation holds it, which may be absent or blank. What is kept are the order of lists, an empty
name of an interface, arguments that are empty and not absent, and the fields that others wrote: of
each of them the last value that the text gives, with the keys of its objects in order. -/
theorem records_survive_being_written :
    Lossless ObjectKey.read ObjectKey.toJson (fun _ => [])
    ∧ Lossless Container.read Container.toJson (fun _ => [])
    ∧ Lossless Definition.read Definition.toJson (fun _ => [])
    ∧ Lossless Pod.read Pod.toJson (fun _ => [])
    ∧ Lossless Plugin.Result.read Plugin.Result.toJson (fun _ => [])
    ∧ Lossless Plugin.Response.read Plugin.Response.toJson (fun _ => [])
    ∧ Lossless Selection.read Selection.toJson Selection.foreign
    ∧ Lossless Attachment.read Attachment.toJson Attachment.foreign
    ∧ (∀ raw recorded, Attachment.parseList raw = .ok recorded →
        (∀ a ∈ recorded, ∀ v ∈ a.foreign, v.Leaves Exact) →
        Attachment.parseList (some (Attachment.renderList recorded)) = .ok recorded)
    ∧ ∀ text a, decodeText Attachment.read text = some a → ∃ j, parse text = some j
        ∧ ∀ k, a.extra.get? k =
          if k ∈ Attachment.knownFields then none else (j.get? k).bind (keep (maxDepth - 1)) := by
  refine ⟨?_, ?_, ?_, ?_, ?_, ?_, ?_, ?_, fun raw recorded read exact => ?_, fun text a decoded => ?_⟩
  · exact lossless_of_rereads fun _ k _ _ _ => k.rereads _
  · exact lossless_of_rereads fun _ c _ _ _ => c.rereads _
  · exact lossless_of_rereads fun _ d _ _ _ => d.rereads _
  · exact lossless_of_rereads fun _ p read _ _ => Pod.rereads (Pod.version_of_read read) _
  · exact lossless_of_rereads fun _ r read _ _ =>
      Plugin.Result.rereads (Plugin.Result.fits_of_read read) _
  · exact lossless_of_rereads fun _ r read _ _ =>
      Plugin.Response.rereads (Plugin.Response.fits_of_read read) _
  · exact lossless_of_rereads fun _ s read range exact =>
      Selection.rereads fun _ given => Selection.args_of_read read range exact given
  · refine lossless_of_rereads fun _ a read range exact => ?_
    have extra := Attachment.extra_of_read read range
    exact Attachment.rereads (fun m mem => (extra m mem).1) (fun m mem => (extra m mem).2.1)
      fun m mem => (extra m mem).2.1.printable (extra m mem).2.2 (exact m.2 (List.mem_map_of_mem mem))
  · refine Attachment.parseList_renderList (Attachment.lasting_of_parseList read ?_)
    exact fun a mem m hm => exact a mem m.2 (List.mem_map_of_mem hm)
  · obtain ⟨j, parsed, read⟩ := Option.bind_eq_some_iff.1 decoded
    exact ⟨j, parsed, Attachment.get?_extra_of_read read⟩

/-- An array of the first fields of a selection, one of which is empty, and an attachment with its
fields in another order and with an unknown one that is given twice. -/
theorem empty_and_unknown_fields_survive :
    let wanted := "[\"net\",\"\",\"\",[],null,[],\x7b\x7d]"
    let recorded := "\x7b\"gateway\":[1],\"interface\":\"\",\"name\":\"ns1/net\",
      \"gateway\":\x7b\"b\":null,\"a\":-2\x7d\x7d"
    (∃ s, decodeText Selection.read wanted = some s ∧ s.interfaceRequest = some ""
      ∧ s.cniArgs = some ∅ ∧ decodeText Selection.read s.toJson.render = some s)
    ∧ ∃ a, decodeText Attachment.read recorded = some a
      ∧ a.extra.entries = [("gateway", .obj [("a", .int (-2)), ("b", .null)])]
      ∧ decodeText Attachment.read a.toJson.render = some a := by
  intro wanted recorded
  obtain ⟨-, -, -, -, -, -, selection, attachment, -⟩ := records_survive_being_written
  obtain ⟨s, hs, request, args⟩ : ∃ s ∈ decodeText Selection.read wanted,
      s.interfaceRequest = some "" ∧ s.cniArgs = some ∅ := by
    decide +kernel
  obtain ⟨a, ha, extra⟩ : ∃ a ∈ decodeText Attachment.read recorded,
      a.extra.entries = [("gateway", .obj [("a", .int (-2)), ("b", .null)])] := by
    decide +kernel
  refine ⟨⟨s, hs, request, args, selection wanted s hs ?_⟩,
    a, ha, extra, attachment recorded a ha ?_⟩
  · rw [Selection.foreign, args]
    exact nofun
  · rw [Attachment.foreign, extra]
    simp [Leaves, LeavesOfMembers, Exact]

end NetAttach
