-- SUMMARY: What a networks annotation may ask for, and that the plugin is asked for nothing else.
import NetAttach.Proofs.Addresses
import NetAttach.Proofs.Origins

/-!
# Requested addresses

A list of selections is accepted if each has a name and asks for well-formed addresses only,
where the length of a block may have a plus sign. Whatever is asked of the plugin was accepted
so in an annotation before.
-/

namespace NetAttach

open Text Network

namespace Selection

/-- A selection has a name, its blocks are of a form, and its hardware address is well formed. -/
structure Formed (block : List Char → Prop) (s : Selection) : Prop where
  named : s.name ≠ ""
  blocks : ∀ ip ∈ s.ips, block ip.toList
  hardware : ∀ mac, s.mac = some mac → Hardware mac.toList

/-- A selection has a name and asks for well-formed addresses only. -/
def WellFormed (s : Selection) : Prop := s.Formed Block

/-- A selection is well formed, but for plus signs before the lengths of its blocks. -/
def Tolerated (s : Selection) : Prop := s.Formed fun ip => Block ip ∨ SignedBlock ip

/-- A selection asks for a block with a plus sign before its length. -/
def Signed (s : Selection) : Prop := ∃ ip ∈ s.ips, SignedBlock ip.toList

variable {raw default : String} {s : Selection} {ss selected : List Selection}

theorem wellFormed_iff : s.WellFormed ↔ s.Tolerated ∧ ¬s.Signed := by
  constructor
  · intro h
    refine ⟨⟨h.named, fun ip hip => .inl (h.blocks ip hip), h.hardware⟩, ?_⟩
    rintro ⟨ip, hip, signed⟩
    exact signed.not_block (h.blocks ip hip)
  · rintro ⟨h, unsigned⟩
    refine ⟨h.named, fun ip hip => ?_, h.hardware⟩
    exact (h.blocks ip hip).resolve_right fun signed => unsigned ⟨ip, hip, signed⟩

/-! ## The check -/

theorem validate_eq_ok_iff {r : Unit} : s.validate = .ok r ↔ s.Tolerated := by
  unfold validate
  split
  · next unnamed =>
    constructor
    · rintro ⟨⟩
    · exact fun h => absurd unnamed h.named
  next named =>
  split
  · next ip found =>
    have refused : isBlock ip.toList = false := by simpa using List.find?_some found
    constructor
    · rintro ⟨⟩
    · intro h
      have accepted := isBlock_iff.2 (h.blocks ip (List.mem_of_find?_eq_some found))
      cases refused.symm.trans accepted
  next all =>
  have blocks : ∀ ip ∈ s.ips, Block ip.toList ∨ SignedBlock ip.toList := fun ip hip =>
    isBlock_iff.1 (by simpa using List.find?_eq_none.1 all ip hip)
  have formed : s.Tolerated ↔ ∀ mac, s.mac = some mac → Hardware mac.toList :=
    ⟨fun h => h.hardware, fun hardware => ⟨named, blocks, hardware⟩⟩
  rw [formed]
  cases s.mac with
  | none => simp
  | some mac => simp [← isMac_iff]

theorem tolerated_inSpace : (s.inSpace default).Tolerated ↔ s.Tolerated := by
  unfold inSpace
  split
  · exact ⟨fun h => ⟨h.named, h.blocks, h.hardware⟩, fun h => ⟨h.named, h.blocks, h.hardware⟩⟩
  · rfl

theorem complete_eq_ok_iff :
    complete default ss = .ok selected ↔
      (∀ s ∈ ss, s.Tolerated) ∧ selected = ss.map (inSpace default) := by
  simp only [complete, mapM_eq_ok_iff, bind_eq_ok_iff, validate_eq_ok_iff, tolerated_inSpace,
    exists_const, pure, Except.pure, Except.ok.injEq]
  rw [List.forall₂_and_left, ← List.forall₂_map_left_iff, List.forall₂_eq_eq_eq, eq_comm]

/-! ## The annotation -/

theorem parseList_marked (marked : ∃ c ∈ raw.toList, c = '[' ∨ c = '\x7b' ∨ c = '\x22')
    (decoded : (Json.parseChars (trimChars raw.toList) >>= Json.decode (Json.listOf read)) = some ss) :
    parseList raw default = complete default ss := by
  obtain ⟨c, hc, mark⟩ := marked
  have ink : isBlank c = false := by obtain rfl | rfl | rfl := mark <;> decide
  have inside := (trims_trimChars raw.toList).mem hc ink
  have form : (trimChars raw.toList).any isJsonMark = true :=
    List.any_eq_true.2 ⟨c, inside, by simpa [isJsonMark, or_assoc] using mark⟩
  simp only [parseList, if_neg (List.ne_nil_of_mem inside), form, if_true, decoded]

theorem tolerated_of_complete (h : complete default ss = .ok selected) (hs : s ∈ selected) :
    s.Tolerated := by
  obtain ⟨all, rfl⟩ := complete_eq_ok_iff.1 h
  obtain ⟨u, hu, rfl⟩ := List.mem_map.1 hs
  exact tolerated_inSpace.2 (all u hu)

theorem tolerated_of_parseList (h : parseList raw default = .ok ss) (hs : s ∈ ss) : s.Tolerated := by
  unfold parseList at h
  dsimp only at h
  split at h
  · cases h
    cases hs
  split at h
  · split at h
    · exact tolerated_of_complete h hs
    · cases h
  · obtain ⟨us, -, completed⟩ := bind_eq_ok_iff.1 h
    exact tolerated_of_complete completed hs

theorem tolerated_of_ofPod {pod : Pod} (h : ofPod pod = .ok ss) (hs : s ∈ ss) : s.Tolerated := by
  unfold ofPod at h
  split at h
  · exact tolerated_of_parseList h hs
  · cases h

end Selection

/-! ## The plugin -/

theorem PodUpdate.Requests.tolerated {u : PodUpdate} {r : Request} (h : u.Requests r) {s : Selection}
    (hs : s ∈ r.networks) : s.Tolerated := by
  obtain ⟨before, after, readable, selected, -, ⟨-, networks⟩ | ⟨-, networks⟩⟩ := h.networks
  · rw [networks] at hs
    exact Selection.tolerated_of_ofPod selected (Selection.mem_notIn.1 hs).1
  · rw [networks] at hs
    exact Selection.tolerated_of_ofPod readable (Selection.mem_notIn.1 hs).1

namespace Watched

variable {s s' : Watched} {d : Deed} {steps : List (Option Deed)} {retries workers : Nat}
  {call : Plugin.Call}

/-- The plugin is called for the addresses of a network that an annotation has asked for. -/
theorem exists_tolerated_of_invoke (run : Run Step (start retries workers) steps s)
    (step : Step s (some d) s') (invokes : d.exchange.1 = .invoke call) :
    ∃ network : Selection, network.Tolerated ∧ call.ips = network.ips ∧ call.mac = network.mac := by
  have sourced := sourced_of_run run
  obtain ⟨u, made⟩ := sourced.source step
  have asked := sourced.asked _ _ made
  obtain ⟨es, -, warrants, -⟩ := Site.warranted_of_trial (trials_of_run run) step.trial
  obtain ⟨worker, t, action, answer⟩ := d
  have warrants : t.request.Warrants es action := warrants
  have invokes : action = .invoke call := invokes
  cases warrants with
  | @make pod network interface definition _ selected holds =>
    cases invokes
    exact ⟨network, asked.tolerated selected, rfl, rfl⟩
  | @undo pod network attached definition _ picks =>
    cases invokes
    exact ⟨network, asked.tolerated picks.selected, rfl, rfl⟩
  | _ => cases invokes

/-- A list of selections is accepted, with the namespace of the pod where they have none, exactly if
every selection is well formed but for signs. So accepting it is the same as being well formed, unless
a list that is accepted has a sign. The plugin is asked for what was accepted in an annotation, whatever
updates the watch is told of and whatever fails. -/
theorem addresses_are_checked_but_for_signs (raw default : String) (ss : List Selection)
    (marked : ∃ c ∈ raw.toList, c = '[' ∨ c = '\x7b' ∨ c = '\x22')
    (decoded : (Json.parseChars (trimChars raw.toList)
      >>= Json.decode (Json.listOf Selection.read)) = some ss) :
    ((∃ selected, Selection.parseList raw default = .ok selected) ↔ ∀ s ∈ ss, s.Tolerated)
      ∧ (((∃ selected, Selection.parseList raw default = .ok selected) ↔ ∀ s ∈ ss, s.WellFormed) ↔
          ((∀ s ∈ ss, s.Tolerated) → ∀ s ∈ ss, ¬s.Signed))
      ∧ (∀ selected, Selection.parseList raw default = .ok selected →
          selected = ss.map (Selection.inSpace default))
      ∧ ∀ {retries workers : Nat} {steps : List (Option Deed)} {s s' : Watched} {d : Deed}
          {call : Plugin.Call}, Run Step (start retries workers) steps s → Step s (some d) s' →
          d.exchange.1 = .invoke call →
            (∀ ip ∈ call.ips, Block ip.toList ∨ SignedBlock ip.toList)
            ∧ ((∀ ip ∈ call.ips, Block ip.toList) ↔ ∀ ip ∈ call.ips, ¬SignedBlock ip.toList)
            ∧ ∀ mac, call.mac = some mac → Hardware mac.toList := by
  have accepts : (∃ selected, Selection.parseList raw default = .ok selected) ↔
      ∀ s ∈ ss, s.Tolerated := by
    simp [Selection.parseList_marked marked decoded, Selection.complete_eq_ok_iff]
  have split : (∀ s ∈ ss, s.WellFormed) ↔ (∀ s ∈ ss, s.Tolerated) ∧ ∀ s ∈ ss, ¬s.Signed := by
    simp only [Selection.wellFormed_iff, forall_and]
  refine ⟨accepts, ?_, fun selected read => ?_, fun run step invokes => ?_⟩
  · rw [accepts, split]
    exact ⟨fun same tolerated => (same.1 tolerated).2,
      fun unsigned => ⟨fun tolerated => ⟨tolerated, unsigned tolerated⟩, fun both => both.1⟩⟩
  · rw [Selection.parseList_marked marked decoded] at read
    exact (Selection.complete_eq_ok_iff.1 read).2
  · obtain ⟨network, tolerated, ips, mac⟩ := exists_tolerated_of_invoke run step invokes
    rw [ips, mac]
    refine ⟨tolerated.blocks, ?_, tolerated.hardware⟩
    constructor
    · exact fun blocks ip hip signed => signed.not_block (blocks ip hip)
    · exact fun unsigned ip hip => (tolerated.blocks ip hip).resolve_right (unsigned ip hip)

/-- A list of one network, which asks for a block and for a hardware address. -/
private def listing : String :=
  "[\x7b\x22name\x22:\x22net\x22,\x22ips\x22:[\x2210.0.0.1/24\x22],"
    ++ "\x22mac\x22:\x2202:00:00:00:00:01\x22\x7d]"

private def listed : Selection :=
  ⟨"net", "", none, ["10.0.0.1/24"], some "02:00:00:00:00:01", [], none⟩

/-- A pod with a networks annotation. -/
private def podListing (networks : String) (version : Nat) : Pod :=
  ⟨"ns1", "pod1", "u1", version, (∅ : Dict String).insert networksKey networks, []⟩

private def listedRequest : Request := ⟨⟨"ns1", "pod1"⟩, .add, [listed.inSpace "ns1"], ""⟩

private def listedUpdate : PodUpdate := ⟨podListing "" 1, podListing listing 2⟩

private theorem requests_listed : listedUpdate.Requests listedRequest :=
  ⟨_, PodStore.respond (fun key => .error (.notFound .definition key)) fun _ => ⟨none⟩, .empty,
    by decide +kernel⟩

/-- The request is worked off after the annotation was edited to the short form. -/
private theorem reached_listed : ∃ (s s' : Watched) (steps : List (Option Deed)),
    Run Step (start 5 1) steps s ∧ Step s (some ⟨0, ⟨0, listedRequest⟩,
      ⟨.invoke (pluginCall .add listedRequest (podListing "net" 1) (listed.inSpace "ns1") ""
        ⟨"ns1", "net", "\x7b\x7d"⟩), .ok ⟨none⟩⟩⟩) s' := by
  have started : Reached [] (start 5 1) := ⟨_, .nil, rfl⟩
  have working := started
    |>.snoc (Step.apply (podListing "net" 0))
    |>.snoc (Step.watch requests_listed)
    |>.moves rfl
    |>.moves rfl
    |>.moves rfl
    |>.moves rfl
  have found := working
    |>.snoc (.exchange (e := ⟨.getPod ⟨"ns1", "pod1"⟩, .ok (podListing "net" 1)⟩) rfl rfl ⟨rfl, rfl⟩)
    |>.snoc (.exchange (e := ⟨.getDefinition ⟨"ns1", "net"⟩, .ok ⟨"ns1", "net", "\x7b\x7d"⟩⟩)
      rfl rfl rfl)
  obtain ⟨steps, run, -⟩ := found
  exact ⟨_, _, steps, run, Step.exchange rfl rfl rfl⟩

/-- The block and the hardware address of a list that is accepted get to the plugin. -/
theorem listed_addresses_reach_the_plugin :
    ∃ (raw : String) (ss : List Selection) (steps : List (Option Deed)) (s s' : Watched) (d : Deed)
      (call : Plugin.Call),
      (Json.parseChars (trimChars raw.toList) >>= Json.decode (Json.listOf Selection.read)) = some ss
        ∧ (∃ selected, Selection.parseList raw "ns1" = .ok selected)
        ∧ Run Step (start 5 1) steps s ∧ Step s (some d) s' ∧ d.exchange.1 = .invoke call
        ∧ call.ips = ["10.0.0.1/24"] ∧ call.mac = some "02:00:00:00:00:01"
        ∧ (∀ ip ∈ call.ips, Block ip.toList ∨ SignedBlock ip.toList)
        ∧ Hardware "02:00:00:00:00:01".toList := by
  obtain ⟨s, s', steps, run, step⟩ := reached_listed
  have decoded : (Json.parseChars (trimChars listing.toList)
      >>= Json.decode (Json.listOf Selection.read)) = some [listed] := by decide +kernel
  have valid : listed.validate = .ok () := rfl
  have tolerated := Selection.validate_eq_ok_iff.1 valid
  obtain ⟨accepts, -, -, calls⟩ := addresses_are_checked_but_for_signs listing "ns1" [listed]
    ⟨'[', by decide +kernel, .inl rfl⟩ decoded
  obtain ⟨blocks, -, hardware⟩ := calls run step rfl
  exact ⟨listing, _, steps, s, s', _, _, decoded, accepts.2 (by simpa using tolerated), run, step, rfl,
    rfl, rfl, blocks, hardware _ rfl⟩

/-- A list of one network, which asks for a block with a sign. -/
private def signedListing : String :=
  "[\x7b\x22name\x22:\x22net\x22,\x22ips\x22:[\x2210.0.0.1/+24\x22]\x7d]"

private def signedListed : Selection := ⟨"net", "", none, ["10.0.0.1/+24"], none, [], none⟩

/-- A length with a plus sign is accepted, although such a block is not well formed. -/
theorem signed_length_is_accepted :
    (Json.parseChars (trimChars signedListing.toList) >>= Json.decode (Json.listOf Selection.read))
        = some [signedListed]
      ∧ (∃ selected, Selection.parseList signedListing "ns1" = .ok selected)
      ∧ ¬∀ s ∈ [signedListed], s.WellFormed := by
  have decoded : (Json.parseChars (trimChars signedListing.toList)
      >>= Json.decode (Json.listOf Selection.read)) = some [signedListed] := by decide +kernel
  have valid : signedListed.validate = .ok () := rfl
  have tolerated := Selection.validate_eq_ok_iff.1 valid
  have signed : SignedBlock "10.0.0.1/+24".toList :=
    .mk (a := ['1', '0', '.', '0', '.', '0', '.', '1']) (d := ['2', '4'])
      (.v4 ⟨[10, 0, 0, 1], rfl, by decide, by decide +kernel⟩)
      ⟨by decide, by simp, by decide⟩
  refine ⟨decoded, ?_, fun formed => ?_⟩
  · rw [Selection.parseList_marked ⟨'[', by decide +kernel, .inl rfl⟩ decoded]
    exact ⟨_, Selection.complete_eq_ok_iff.2 ⟨by simpa using tolerated, rfl⟩⟩
  · have formed := formed signedListed List.mem_cons_self
    exact signed.not_block (formed.blocks _ List.mem_cons_self)

end Watched

end NetAttach
